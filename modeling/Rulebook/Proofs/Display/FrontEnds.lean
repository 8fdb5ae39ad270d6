import Mathlib
import Rulebook.Proofs.Attribute.Display
import Rulebook.Proofs.Display.Asking
import Rulebook.Proofs.Display.Writing
import Rulebook.Proofs.Validation.Reading

/-!
# The two front ends

Whoever asks for a rule set, over HTTP or on the command line, is told the same. A group that is
shown is the same JSON, also where it has been printed and is read again; where nothing can be shown,
and where the rule engine meets an error, both say so; any other failure escapes from both.
-/

namespace Rulebook

/-! ## Settings -/

theorem Checked.le_of_optional {name : String} {least default : Int} {most : Option Int} {j : Json}
    {n : Int} (hdefault : least ≤ default)
    (h : optional name default (intBetween (some least) most) j = .ok n) : least ≤ n := by
  rcases optional_eq_ok h with ⟨-, rfl⟩ | ⟨v, -, hread⟩
  · exact hdefault
  · obtain ⟨m, -, hbounds⟩ := andThen_eq_ok hread
    simp only [Option.any_some, decide_eq_true_eq] at hbounds
    split_ifs at hbounds with hlt
    · cases hbounds
    · cases hbounds
    · cases hbounds
      exact Int.not_lt.1 hlt

theorem Checked.one_le_of_settings {j : Json} {cfg : Settings} (h : settings j = .ok cfg) :
    1 ≤ cfg.descriptorPageSize ∧ 1 ≤ cfg.maxRuleSetDepth := by
  have hlast := seq_eq_ok h
  clear h
  obtain ⟨g, depth, h, hdepth, rfl⟩ := hlast
  have hlast := seq_eq_ok h
  clear h
  obtain ⟨g, size, h, hsize, rfl⟩ := hlast
  -- what is read before does not count
  iterate 12
    have hlast := seq_eq_ok h
    clear h
    obtain ⟨g, a, h, -, rfl⟩ := hlast
  cases h
  exact ⟨le_of_optional (by decide) hsize, le_of_optional (by decide) hdepth⟩

theorem Checked.eq_ok_of_toExcept {α : Type} {x : Checked α} {a : α} (h : x.toExcept = .ok a) :
    x = .ok a := by
  cases x <;> cases h
  rfl

/-- Settings that can be read allow a page of one row and a path of one rule set at least. -/
theorem Settings.one_le_of_read {environment : List (String × String)}
    {given : List (String × Json)} {cfg : Settings} (h : read environment given = .ok cfg) :
    1 ≤ cfg.descriptorPageSize ∧ 1 ≤ cfg.maxRuleSetDepth := by
  unfold read at h
  cases hmembers : ofVariables (variablesByName environment) with
  | error f =>
    rw [hmembers] at h
    cases h
  | ok members =>
    rw [hmembers] at h
    simp only [bind, Except.bind, pure, Except.pure, throw, throwThe, MonadExceptOf.throw] at h
    -- the place of the database is a text, or is not there and missed only now
    split at h
    case h_3 => cases h
    all_goals
      split at h
      · next hchecked =>
        cases h
        exact Checked.one_le_of_settings (Checked.eq_ok_of_toExcept hchecked)
      · cases h

/-! ## The root of a rule set -/

namespace Compiler

variable {c : Compiler} {id : Int} {s : RuleSet} {hidden : Bool}

/-- It makes no difference whether a stored rule set is given by its number or is at hand. -/
theorem result_compile_of_findRuleSet (hpos : 0 < id) (hdepth : c.maxDepth ≠ 0)
    (hfound : c.store.findRuleSet id = .ok (some s)) :
    (c.compile hidden id).result = (c.compileDraft hidden s.toDraft).result := by
  have hentry : c.entry c.maxDepth [] hidden id = do
      return (← opening c.visitor.scope hidden s.toDraft).map fun head => (s, head) := by
    simp [entry, Int.not_le.2 hpos, hfound, hdepth]
    rfl
  rw [result_compile, resultBelow_eq, hentry, result_compileDraft]
  cases opening c.visitor.scope hidden s.toDraft with
  | error f => rfl
  | ok opened => cases opened <;> rfl

/-- Where the descriptors load, an error of the rule engine among the parts of a stored rule set is
one of a rule set that it refers to. -/
theorem exists_nested_of_groupParts_error (hplain : c.visitor.LoadsPlainly)
    {nested : Int → Result (Option Group)} {error : RuleError}
    (h : groupParts c.visitor nested s.toDraft.rules = .error (.rule error)) :
    ∃ id, nested id = .error (.rule error) := by
  rcases blame_of_groupParts_error h with ⟨id, -, hnested, -⟩ | ⟨r, hr, hcondition⟩
  · exact ⟨id, hnested⟩
  · obtain ⟨stored, -, rfl⟩ := RuleSet.mem_toDraft_rules.1 hr
    exact absurd (Visitor.kinds_eq_of_stored_condition_error hcondition) (hplain error)

section ScopeMismatch

variable {scope : Option String} {expected : Scope} {n : Option Int}

/-- A rule set of another scope is none of those that are being compiled. -/
theorem not_mem_of_scopeMismatch (hplain : c.visitor.LoadsPlainly) {left : Nat} {path : List Int}
    (h : c.resultBelow left path hidden id = .error (.rule (.scopeMismatch scope expected n))) :
    ∀ p ∈ path, n ≠ some p := by
  induction left using nesting_induction generalizing path hidden id with
  | step left ih =>
    intro p hp
    rcases resultBelow_eq_error_iff.1 h with hentry | ⟨s, head, hentry, hparts⟩
    · obtain ⟨-, hfailure⟩ := entryFailure_of_entry hentry
      cases hfailure with
      | foreign hpath hfound hscope =>
        intro hn
        apply hpath
        rw [Option.some.inj hn]
        exact hp
    · -- the rule sets on the path are also on that of the nested one
      obtain ⟨id', hnested⟩ := exists_nested_of_groupParts_error hplain hparts
      exact ih (ne_zero_of_entry hentry) hnested p (List.mem_append_left _ hp)

/-- A rule set that is of the scope is not what a mismatch of scopes is about. -/
theorem ne_of_scopeMismatch (hplain : c.visitor.LoadsPlainly)
    (hscope : s.scope = c.visitor.scope.name) (h : (c.compileDraft hidden s.toDraft).result =
      .error (.rule (.scopeMismatch scope expected n))) : n ≠ some s.id := by
  rw [result_compileDraft] at h
  rcases Result.bind_eq_error_iff.1 h with hopen | ⟨opened, -, h⟩
  · rcases opening_stored_eq_error hopen with ⟨hne, -⟩ | ⟨-, -, hf⟩
    · exact absurd hscope hne
    · cases hf
  · cases opened with
    | none => cases h
    | some head =>
      rcases Result.bind_eq_error_iff.1 h with hparts | ⟨parts, -, h⟩
      · obtain ⟨id', hnested⟩ := exists_nested_of_groupParts_error hplain hparts
        exact not_mem_of_scopeMismatch hplain hnested s.id List.mem_cons_self
      · cases h

end ScopeMismatch

end Compiler

/-! ## Showing a rule set -/

namespace Engine

variable {e : Engine} {s : Store} {id : Int} {hidden : Bool} {language : Option String}

/-- What can be shown of a rule set, and when. -/
inductive Shows (e : Engine) (s : Store) (id : Int) (hidden : Bool) (language : Option String) :
    Result Shown → Prop where
  | unread (hfound : s.findRuleSet id = .error .outOfRange) :
      Shows e s id hidden language (.error .outOfRange)
  | missing (hfound : s.findRuleSet id = .ok none) : Shows e s id hidden language (.ok .notFound)
  /-- No provider serves the scope of the rule set. -/
  | unserved {r : RuleSet} (hfound : s.findRuleSet id = .ok (some r))
      (hscope : r.scope ≠ e.provider.scope.name) :
      Shows e s id hidden language (.error (.rule (.unknownScope r.scope)))
  | failed {r : RuleSet} {f : Failure} (hfound : s.findRuleSet id = .ok (some r))
      (hscope : r.scope = e.provider.scope.name)
      (hcompiled : ((e.compiler s).compileDraft hidden r.toDraft).result = .error f) :
      Shows e s id hidden language (.error f)
  | inactive {r : RuleSet} (hfound : s.findRuleSet id = .ok (some r))
      (hscope : r.scope = e.provider.scope.name)
      (hcompiled : ((e.compiler s).compileDraft hidden r.toDraft).result = .ok none) :
      Shows e s id hidden language (.ok .inactive)
  /-- The notes cannot be made. -/
  | unnoted {r : RuleSet} {g : Group} {f : Failure} (hfound : s.findRuleSet id = .ok (some r))
      (hscope : r.scope = e.provider.scope.name)
      (hcompiled : ((e.compiler s).compileDraft hidden r.toDraft).result = .ok (some g))
      (hnoted : ((e.annotator s).annotate language g).failure = some f) :
      Shows e s id hidden language (.error f)
  | group {r : RuleSet} {g : Group} (hfound : s.findRuleSet id = .ok (some r))
      (hscope : r.scope = e.provider.scope.name)
      (hcompiled : ((e.compiler s).compileDraft hidden r.toDraft).result = .ok (some g))
      (hnoted : ((e.annotator s).annotate language g).failure = none) :
      Shows e s id hidden language (.ok (.group ((e.annotator s).annotate language g).after))

theorem ofName?_eq_provider_iff {scope : String} :
    Scope.ofName? scope = some e.provider.scope ↔ scope = e.provider.scope.name :=
  find?_name_eq_some_iff Scope.ofName?_name

theorem findProvider_of_scope {scope : String} (h : scope = e.provider.scope.name) :
    e.findProvider scope = .ok e.provider :=
  ProviderRegistry.get_of_served (ofName?_eq_provider_iff.2 h) (by simp [providers])

theorem findProvider_of_ne {scope : String} (h : scope ≠ e.provider.scope.name) :
    e.findProvider scope = .error (.unknownScope scope) := by
  apply ProviderRegistry.get_of_unserved
  intro served hserved
  have hother : served ≠ e.provider.scope := by
    rintro rfl
    exact h (ofName?_eq_provider_iff.1 hserved)
  rw [providers, ProviderRegistry.find?_ofProviders_singleton, if_neg hother]

/-- A rule set of a scope that is served is compiled, and given notes. -/
theorem showRuleSet_of_scope {r : RuleSet} (hfound : s.findRuleSet id = .ok (some r))
    (hscope : r.scope = e.provider.scope.name) :
    (e.showRuleSet s id hidden language).2 =
      ((e.compiler s).compileDraft hidden r.toDraft).result >>= fun compiled =>
        compiled.elim (.ok .inactive) fun g =>
          ((e.annotator s).annotate language g).toResult.map .group := by
  unfold showRuleSet
  rw [hfound]
  dsimp only
  rw [findProvider_of_scope hscope]
  cases ((e.compiler s).compileDraft hidden r.toDraft).result with
  | error f => rfl
  | ok compiled =>
    cases compiled with
    | none => rfl
    | some g =>
      show (((e.annotator s).annotate language g).toResult >>= fun noted => pure (Shown.group noted)) =
        ((e.annotator s).annotate language g).toResult.map Shown.group
      cases ((e.annotator s).annotate language g).toResult <;> rfl

theorem showRuleSet_spec (e : Engine) (s : Store) (id : Int) (hidden : Bool)
    (language : Option String) :
    Shows e s id hidden language (e.showRuleSet s id hidden language).2 := by
  cases hfound : s.findRuleSet id with
  | error f =>
    obtain ⟨-, rfl⟩ := Store.findRuleSet_eq_error hfound
    rw [showRuleSet, hfound]
    exact .unread hfound
  | ok found =>
    cases found with
    | none =>
      rw [showRuleSet, hfound]
      exact .missing hfound
    | some r =>
      by_cases hscope : r.scope = e.provider.scope.name
      · rw [showRuleSet_of_scope hfound hscope]
        cases hcompiled : ((e.compiler s).compileDraft hidden r.toDraft).result with
        | error f => exact .failed hfound hscope hcompiled
        | ok compiled =>
          cases compiled with
          | none => exact .inactive hfound hscope hcompiled
          | some g =>
            show Shows e s id hidden language
              (((e.annotator s).annotate language g).toResult.map .group)
            rw [Annotated.toResult]
            cases hnoted : ((e.annotator s).annotate language g).failure with
            | some f => exact .unnoted hfound hscope hcompiled hnoted
            | none => exact .group hfound hscope hcompiled hnoted
      · rw [showRuleSet, hfound]
        dsimp only
        rw [findProvider_of_ne hscope]
        exact .unserved hfound hscope

/-- A mismatch of scopes is never about the rule set that is asked for: its provider is that of its
own scope. -/
theorem ne_of_showRuleSet_scopeMismatch
    (hplain : ∀ error, ¬(e.annotator s).MayFail (.rule error))
    (hloads : (e.visitor s).LoadsPlainly) {scope : Option String} {expected : Scope} {n : Option Int}
    (h : Shows e s id hidden language (.error (.rule (.scopeMismatch scope expected n)))) :
    n ≠ some id := by
  cases h with
  | failed hfound hscope hcompiled =>
    rw [← Store.id_of_findRuleSet hfound]
    exact Compiler.ne_of_scopeMismatch hloads hscope hcompiled
  | unnoted hfound hscope hcompiled hnoted =>
    exact absurd (mayFail_of_annotate hnoted) (hplain _)

end Engine

/-! ## Agreement -/

open Rulebook.Http Rulebook.CommandLine

/-- An answer over HTTP and an ending of the program tell the same. -/
structure SaySame (answered : Response) (ended : Ending) : Prop where
  /-- The JSON that is answered is the one that is printed. -/
  shown : ∀ j, answered = ⟨200, .json j⟩ ↔
    ∃ report, ended = .reported report ∧ report.code = 0 ∧ Json.parse report.output = .ok j
  absent : answered.status = 404 ↔ ∃ report, ended = .reported report ∧ report.code = 1
  /-- An error of the rule engine is described with the same message. -/
  refused : ∀ message,
    (∃ name, answered =
      ⟨500, .json (.object [("detail", .text message), ("error", .text name)])⟩) ↔
    ∃ report, ended = .reported report ∧ report.code = 2 ∧
      report.errors = "Error: " ++ message ++ "\n"
  /-- Any other failure escapes. -/
  escaped : answered = ⟨500, .text "Internal Server Error"⟩ ↔ ∃ f, ended = .failed f
  /-- There is no other way to end. -/
  exhausted : (∃ j, answered = ⟨200, .json j⟩) ∨ answered.status = 404 ∨
    (∃ message name, answered =
      ⟨500, .json (.object [("detail", .text message), ("error", .text name)])⟩) ∨
    answered = ⟨500, .text "Internal Server Error"⟩

namespace SaySame

theorem of_shown {j : Json} {output : String} (h : Json.parse output = .ok j) :
    SaySame (.ok j) (.reported (.success output)) where
  shown j' := by
    constructor
    · intro hj
      cases hj
      exact ⟨_, rfl, rfl, h⟩
    · rintro ⟨report, hreport, -, hparse⟩
      cases hreport
      cases h.symm.trans hparse
      rfl
  absent := ⟨nofun, fun ⟨report, hreport, hcode⟩ => by cases hreport; cases hcode⟩
  refused _ := ⟨nofun, fun ⟨report, hreport, hcode, _⟩ => by cases hreport; cases hcode⟩
  escaped := ⟨nofun, nofun⟩
  exhausted := .inl ⟨j, rfl⟩

theorem of_absent (detail line : String) :
    SaySame (.problem 404 detail) (.reported (.nothing line)) where
  shown _ := ⟨nofun, fun ⟨report, hreport, hcode, _⟩ => by cases hreport; cases hcode⟩
  absent := ⟨fun _ => ⟨_, rfl, rfl⟩, fun _ => rfl⟩
  refused _ := ⟨nofun, fun ⟨report, hreport, hcode, _⟩ => by cases hreport; cases hcode⟩
  escaped := ⟨nofun, nofun⟩
  exhausted := .inr (.inl rfl)

theorem of_refused (error : RuleError) :
    SaySame (.failed (.rule error)) (.reported (.refused error)) where
  shown _ := ⟨nofun, fun ⟨report, hreport, hcode, _⟩ => by cases hreport; cases hcode⟩
  absent := ⟨nofun, fun ⟨report, hreport, hcode⟩ => by cases hreport; cases hcode⟩
  refused message := by
    constructor
    · rintro ⟨name, hname⟩
      cases hname
      exact ⟨_, rfl, rfl, rfl⟩
    · rintro ⟨report, hreport, -, herrors⟩
      cases hreport
      -- the message stands between a fixed beginning and a fixed end
      have hmessage : error.message = message := by
        simpa [Report.refused] using herrors
      rw [← hmessage]
      exact ⟨error.name, rfl⟩
  escaped := ⟨nofun, nofun⟩
  exhausted := .inr (.inr (.inl ⟨_, _, rfl⟩))

theorem of_escaped (f : Failure) :
    SaySame ⟨500, .text "Internal Server Error"⟩ (.failed f) where
  shown _ := ⟨nofun, nofun⟩
  absent := ⟨nofun, nofun⟩
  refused _ := ⟨nofun, nofun⟩
  escaped := ⟨fun _ => ⟨f, rfl⟩, fun _ => rfl⟩
  exhausted := .inr (.inr (.inr rfl))

theorem of_error (f : Failure) : SaySame (.failed f) (.ofResult (.error f)) := by
  cases f with
  | rule error => exact of_refused error
  | _ => exact of_escaped _

end SaySame

theorem Http.Response.failed_ne_ok (f : Failure) (j : Json) : Response.failed f ≠ ⟨200, .json j⟩ := by
  cases f <;> exact nofun

section Agreement

variable {environment : List (String × String)} {cfg : Settings} {s : Store} {id : Int}
  {hidden : Bool} {language : Option String}

theorem readsCatalog_ofSettings (hcfg : Settings.read environment [] = .ok cfg) (s : Store) :
    Attribute.ReadsCatalog ((Engine.ofSettings cfg).visitor s) s :=
  Attribute.readsCatalog_of_isFresh rfl (Settings.one_le_of_read hcfg).1
    (Engine.isFresh_attributes _ _ _ _ _)

theorem run_showWords (hcfg : Settings.read environment [] = .ok cfg)
    (hid : Checked.fitsWord id = true) :
    (run environment (some s) (showWords id hidden language)).2 =
      .ofResult (((Engine.ofSettings cfg).showRuleSet s id hidden language).2.map (shownReport id)) := by
  simp only [run, read_showWords hid, hcfg]
  rfl

/-- What is shown, or not shown, is told alike by both front ends. -/
theorem saySame_of_shows (hcfg : Settings.read environment [] = .ok cfg) (hfit : s.NumbersFit)
    {x : Result Shown} (h : (Engine.ofSettings cfg).Shows s id hidden language x) :
    SaySame (Api.respond x shownResponse) (.ofResult (x.map (shownReport id))) := by
  have herror (f : Failure) : SaySame (Api.respond (.error f) shownResponse)
      (.ofResult (Except.map (shownReport id) (.error f))) := .of_error f
  cases h with
  | missing hfound => exact .of_absent _ _
  | inactive hfound hscope hcompiled => exact .of_absent _ _
  | group hfound hscope hcompiled hnoted =>
    -- the printed text is read back as the JSON that was written
    have hwritable := Compiler.writable_of_compileDraft (readsCatalog_ofSettings hcfg s) hfit
      hfound hcompiled
    exact .of_shown (Json.parse_renderLines (writable_annotate hwritable).readable)
  | unread hfound => exact herror _
  | unserved hfound hscope => exact herror _
  | failed hfound hscope hcompiled => exact herror _
  | unnoted hfound hscope hcompiled hnoted => exact herror _

end Agreement

/-- The two front ends tell the same of every rule set, with settings that can be read, over the
same rows and with nothing cached. What is shown is the rule set of the number, compiled and with
notes; an error that is reported is the one that was met, and never says that the rule set itself is
of another scope. -/
theorem front_ends_agree (environment : List (String × String)) (cfg : Settings) (s : Store)
    (id : Int) (hidden : Bool) (language : Option String)
    (hcfg : Settings.read environment [] = .ok cfg) (hfit : s.NumbersFit)
    (hid : Checked.fitsWord id = true) :
    let e := Engine.ofSettings cfg
    let answered := ((Api.ofSettings cfg).answer s (showRequest id hidden language)).2
    let ended := (run environment (some s) (showWords id hidden language)).2
    SaySame answered ended ∧
      (0 < id → ∀ j, answered = ⟨200, .json j⟩ →
        ∃ g, ((e.compiler s).compile hidden id).result = .ok (some g) ∧
          ((e.annotator s).annotate language g).failure = none ∧
          j = ((e.annotator s).annotate language g).after.toExpr.toJson) ∧
      ∀ message name, answered =
          ⟨500, .json (.object [("detail", .text message), ("error", .text name)])⟩ →
        ∃ error, (e.showRuleSet s id hidden language).2 = .error (.rule error) ∧
          error.message = message ∧ error.name = name ∧
          ∀ scope expected n, error = .scopeMismatch scope expected n → n ≠ some id := by
  intro e answered ended
  have hanswered : answered = Api.respond (e.showRuleSet s id hidden language).2 shownResponse :=
    answer_showRequest (.ofSettings cfg) s hid hidden language
  have hended : ended = .ofResult ((e.showRuleSet s id hidden language).2.map (shownReport id)) :=
    run_showWords hcfg hid
  have hplain : ∀ error, ¬(e.annotator s).MayFail (.rule error) :=
    Attribute.not_mayFail_rule (l := .builtIn cfg.defaultLanguage) rfl s
  have hloads : (e.visitor s).LoadsPlainly := (readsCatalog_ofSettings hcfg s).loadsPlainly
  have hshows := e.showRuleSet_spec s id hidden language
  refine ⟨?_, ?_, ?_⟩
  · rw [hanswered, hended]
    exact saySame_of_shows hcfg hfit hshows
  · intro hpos j hj
    rw [hanswered] at hj
    have hdepth : (e.compiler s).maxDepth ≠ 0 := by
      have hone := (Settings.one_le_of_read hcfg).2
      show cfg.maxRuleSetDepth.toNat ≠ 0
      omega
    generalize (e.showRuleSet s id hidden language).2 = x at hj hshows
    cases hshows with
    | group hfound hscope hcompiled hnoted =>
      cases hj
      refine ⟨_, ?_, hnoted, rfl⟩
      rw [Compiler.result_compile_of_findRuleSet hpos hdepth hfound]
      exact hcompiled
    | failed hfound hscope hcompiled => exact absurd hj (Response.failed_ne_ok _ _)
    | unnoted hfound hscope hcompiled hnoted => exact absurd hj (Response.failed_ne_ok _ _)
    | _ => cases hj
  · intro message name hrefused
    rw [hanswered] at hrefused
    cases hshown : (e.showRuleSet s id hidden language).2 with
    | ok shown =>
      rw [hshown] at hrefused
      cases shown <;> cases hrefused
    | error f =>
      rw [hshown] at hrefused hshows
      cases f with
      | rule error =>
        cases hrefused
        refine ⟨error, rfl, rfl, rfl, ?_⟩
        rintro scope expected n rfl
        exact Engine.ne_of_showRuleSet_scopeMismatch hplain hloads hshows
      | _ => cases hrefused

/-- An environment in which only the place of the database is set. -/
def shopEnvironment : List (String × String) := [("DATABASE_URL", "sqlite:///shop.db")]

/-- The settings that are read from it. -/
def shopSettings : Settings where
  appName := "Rule Set Engine"
  appVersion := "0.1.0"
  debug := false
  logLevel := .info
  host := "0.0.0.0"
  portNumber := 8000
  allowedOrigins := ["http://localhost:3000", "http://localhost:8000"]
  databaseUrl := "sqlite:///shop.db"
  databasePoolSize := 5
  databaseMaxOverflow := 10
  databaseEcho := false
  defaultLanguage := "en"
  descriptorPageSize := 1000
  maxRuleSetDepth := 16

/-- A rule set with a condition on colours, and with a reference to a rule set that is missing. -/
def shopRuleSet : RuleSet :=
  ⟨1, none, "product_attribute", "and", true, false,
    [⟨10, "variant3", "in", some "5, 6", 0⟩, ⟨11, "group", "eq", some "4", 1⟩]⟩

def shop : Store where
  catalog := [⟨3, 0, ⟨some "Colour", .null⟩⟩]
  ruleSets := [shopRuleSet]
  attributes := []
  values := []

theorem shop_shown_alike :
    Settings.read shopEnvironment [] = .ok shopSettings ∧ shop.NumbersFit ∧
      Checked.fitsWord 1 = true ∧
      ((Api.ofSettings shopSettings).answer shop (showRequest 1 false none)).2.status = 200 ∧
      SaySame ((Api.ofSettings shopSettings).answer shop (showRequest 1 false none)).2
        (run shopEnvironment (some shop) (showWords 1 false none)).2 := by
  have hread : Settings.read shopEnvironment [] = .ok shopSettings := by rfl
  have hfit : shop.NumbersFit := ⟨by decide, by decide⟩
  have hid : Checked.fitsWord 1 = true := by decide
  have hfound : shop.findRuleSet 1 = .ok (some shopRuleSet) := by rfl
  have hshown : ((Api.ofSettings shopSettings).answer shop (showRequest 1 false none)).2.status =
      200 := by
    rw [answer_showRequest _ _ hid, Engine.showRuleSet_of_scope hfound rfl]
    cbv
  exact ⟨hread, hfit, hid, hshown,
    (front_ends_agree shopEnvironment shopSettings shop 1 false none hread hfit hid).1⟩

end Rulebook
