import Mathlib
import Rulebook.Proofs.Enrichment.Frame

/-!
# Enriching again

Enrichment puts its notes under keys that depend on the condition alone, so what was put there for
one language is replaced for the next. Whatever notes a tree bears, also those of work that ended
early, enriching it makes the same tree as if it had not been enriched before. This takes providers
whose answers do not depend on notes, as those of the values of attributes do not.
-/

namespace Rulebook

open Annotator

/-! ## Putting a note twice -/

section Keyed

variable {α : Type} {key key' : String} {x y : α} {items : List (String × α)}

theorem putKeyed_putKeyed : putKeyed key y (putKeyed key x items) = putKeyed key y items := by
  induction items with
  | nil => simp [putKeyed]
  | cons item rest ih =>
    obtain ⟨k, z⟩ := item
    by_cases hk : k = key
    · simp [putKeyed, hk]
    · simp [putKeyed, hk, ih]

/-- A key that is there keeps its place, so another one may be put first. -/
theorem putKeyed_comm (hne : key ≠ key') (hmem : key ∈ items.map Prod.fst) :
    putKeyed key x (putKeyed key' y items) = putKeyed key' y (putKeyed key x items) := by
  induction items with
  | nil => cases hmem
  | cons item rest ih =>
    obtain ⟨k, z⟩ := item
    by_cases hk : k = key
    · subst hk
      simp [putKeyed, hne]
    · have hrest : key ∈ rest.map Prod.fst :=
        (List.mem_cons.1 hmem).resolve_left fun hsame => hk hsame.symm
      by_cases hk' : k = key'
      · simp [putKeyed, hk', hne.symm]
      · simp [putKeyed, hk, hk', ih hrest]

end Keyed

/-- The answers of the provider do not depend on the notes on a condition. -/
def OptionsProvider.IgnoresNotes (p : OptionsProvider) : Prop :=
  ∀ (request : OptionsRequest) (notes : Notes),
    p.options { request with condition := { request.condition with notes := notes } } =
      p.options request

theorem VariantOptions.ignoresNotes_provider (s : Store) (l : Localizer) :
    (provider s l).IgnoresNotes := by
  intro request notes
  obtain ⟨reason, condition, index, size, term, language⟩ := request
  cases reason <;> rfl

/-- Two pieces of work end in the same way, and where they come to their end, with the same result. -/
structure Annotated.Agrees {α : Type} (x y : Annotated α) : Prop where
  failure : x.failure = y.failure
  after : y.failure = none → x.after = y.after

theorem Annotated.Agrees.map {α β : Type} {x y : Annotated α} (h : x.Agrees y) (f : α → β) :
    (x.map f).Agrees (y.map f) :=
  ⟨h.failure, fun hcompletes => congrArg f (h.after hcompletes)⟩

namespace Annotator

/-! ## One condition -/

section Condition

variable {a : Annotator} {first second : String} {c c' : Leaf}

theorem putNote_putNote {key : String} (note note' : Note) :
    putNote key note' (putNote key note c) = putNote key note' c := by
  simp only [putNote, putKeyed_putKeyed]

/-- Whether a condition is supported does not depend on its notes. -/
theorem isUnsupported_putNote (key : String) (note : Note) (c : Leaf) :
    isUnsupported (putNote key note c) = isUnsupported c := rfl

theorem markUnsupported_markUnsupported :
    a.markUnsupported second (a.markUnsupported first c) = a.markUnsupported second c := by
  by_cases h : isUnsupported c = true
  · rw [markUnsupported_of_unsupported h, markUnsupported_of_unsupported h,
      markUnsupported_of_unsupported (by rwa [isUnsupported_putNote]), putNote_putNote]
  · rw [markUnsupported_of_supported h first]

/-- The names that are there already do not come into the way of the error note. -/
theorem markUnsupported_named (note : Note) :
    a.markUnsupported second (putNote selectedKey note (a.markUnsupported first c)) =
      putNote selectedKey note (a.markUnsupported second c) := by
  by_cases h : isUnsupported c = true
  · rw [markUnsupported_of_unsupported h, markUnsupported_of_unsupported h,
      markUnsupported_of_unsupported (by rwa [isUnsupported_putNote, isUnsupported_putNote])]
    simp only [putNote]
    rw [putKeyed_comm (by decide) mem_keys_putKeyed, putKeyed_putKeyed]
  · rw [markUnsupported_of_supported h, markUnsupported_of_supported h,
      markUnsupported_of_supported (by rwa [isUnsupported_putNote])]

/-- What the provider of the values of a condition answers, if there is one. -/
def answer? (a : Annotator) (language : String) (c : Leaf) : Option (Result OptionsPage) :=
  (a.providerOf c).map fun p => p.options (selectedRequest language c)

/-- A condition on which the names of its values are put, if its provider gives them. -/
def withNames : Option (Result OptionsPage) → Leaf → Annotated Leaf
  | none, c => ⟨c, none⟩
  | some (.error f), c => ⟨c, some f⟩
  | some (.ok page), c => ⟨putNote selectedKey (selectedNote page.options) c, none⟩

theorem answer?_noted (hignore : ∀ p ∈ a.providers, p.IgnoresNotes) (h : c.Noted a c')
    (language : String) : a.answer? language c' = a.answer? language c := by
  rw [h.eq, answer?, answer?]
  show (a.providerOf c).map _ = _
  cases hp : a.providerOf c with
  | none => rfl
  | some p =>
    obtain ⟨source, -, hfind⟩ := Option.bind_eq_some_iff.1 hp
    exact congrArg some (hignore p (List.mem_of_find?_eq_some hfind) (selectedRequest language c) _)

theorem annotateLeaf_eq (hignore : ∀ p ∈ a.providers, p.IgnoresNotes) (language : String)
    (c : Leaf) :
    a.annotateLeaf language c = withNames (a.answer? language c) (a.markUnsupported language c) := by
  rw [← answer?_noted hignore (markUnsupported_noted language c) language]
  simp only [annotateLeaf, answer?]
  cases a.providerOf (a.markUnsupported language c) with
  | none => rfl
  | some p =>
    simp only [Option.map_some]
    cases p.options (selectedRequest language (a.markUnsupported language c)) <;> rfl

/-- A condition that has been enriched for one language is enriched for the next as if it had not. -/
theorem annotateLeaf_agrees (hignore : ∀ p ∈ a.providers, p.IgnoresNotes) (first second : String)
    (c : Leaf) :
    (a.annotateLeaf second (a.annotateLeaf first c).after).Agrees (a.annotateLeaf second c) := by
  have hsecond := answer?_noted hignore (annotateLeaf_noted (a := a) first c) second
  rw [annotateLeaf_eq hignore second, annotateLeaf_eq hignore second, hsecond,
    annotateLeaf_eq hignore first]
  cases hfirst : a.answer? first c with
  | none =>
    rw [show (withNames none (a.markUnsupported first c)).after = a.markUnsupported first c from rfl,
      markUnsupported_markUnsupported]
    exact ⟨rfl, fun _ => rfl⟩
  | some answer =>
    cases answer with
    | error f =>
      show (withNames _ (a.markUnsupported second (a.markUnsupported first c))).Agrees _
      rw [markUnsupported_markUnsupported]
      exact ⟨rfl, fun _ => rfl⟩
    | ok page =>
      show (withNames _ (a.markUnsupported second
        (putNote selectedKey _ (a.markUnsupported first c)))).Agrees _
      rw [markUnsupported_named]
      -- the same provider is asked again, and its answer replaces the first one
      obtain ⟨p, hp, -⟩ := Option.map_eq_some_iff.1 hfirst
      rw [answer?, hp, Option.map_some]
      cases p.options (selectedRequest second c) with
      | error f => exact ⟨rfl, nofun⟩
      | ok page' => exact ⟨rfl, fun _ => putNote_putNote _ _⟩

end Condition

/-! ## The whole tree -/

section Tree

variable {a : Annotator} {first second : String}

theorem annotateParts_agrees {parts : List Expr}
    (ih : ∀ e ∈ parts, (a.annotateExpr second (a.annotateExpr first e).after).Agrees
      (a.annotateExpr second e)) :
    (a.annotateParts second (a.annotateParts first parts).after).Agrees
      (a.annotateParts second parts) := by
  induction parts with
  | nil => exact ⟨rfl, fun _ => rfl⟩
  | cons e rest ihrest =>
    rw [List.forall_mem_cons] at ih
    -- wherever the first work has ended, this part and the rest are enriched as if it had not been
    have hstep (rest' : List Expr)
        (hrest : (a.annotateParts second rest').Agrees (a.annotateParts second rest)) :
        (a.annotateParts second ((a.annotateExpr first e).after :: rest')).Agrees
          (a.annotateParts second (e :: rest)) := by
      rw [annotateParts, annotateParts]
      cases hsecond : (a.annotateExpr second e).failure with
      | some f =>
        simp only [ih.1.failure, hsecond]
        exact ⟨rfl, fun hnone => absurd hnone (Option.some_ne_none f)⟩
      | none =>
        simp only [ih.1.failure, hsecond, ih.1.after hsecond]
        exact hrest.map _
    rw [annotateParts]
    cases (a.annotateExpr first e).failure with
    | some f => exact hstep rest ⟨rfl, fun _ => rfl⟩
    | none => exact hstep _ (ihrest ih.2)

theorem annotateExpr_agrees (hignore : ∀ p ∈ a.providers, p.IgnoresNotes) (e : Expr) :
    (a.annotateExpr second (a.annotateExpr first e).after).Agrees (a.annotateExpr second e) := by
  induction e using Expr.parts_induction with
  | leaf c =>
    simp only [annotateExpr]
    exact (annotateLeaf_agrees hignore first second c).map _
  | group head parts ih =>
    simp only [annotateExpr]
    exact (annotateParts_agrees ih).map _

end Tree

end Annotator

/-- The last enrichment wins. Whatever notes a tree bears, and whether or not the work for the first
language comes to its end, the work for the second one ends as it does without the first, and makes
the same tree if it comes to its end. So enriching once more for the same language changes nothing.
The providers need only answer the same whatever notes there are, as that of the values of attributes
does. -/
theorem last_enrichment_wins (a : Annotator) (hignore : ∀ p ∈ a.providers, p.IgnoresNotes)
    (first second : Option String) (g : Group) :
    (a.annotate second (a.annotate first g).after).failure = (a.annotate second g).failure ∧
      ((a.annotate second g).failure = none →
        (a.annotate second (a.annotate first g).after).after = (a.annotate second g).after ∧
        (a.annotate second (a.annotate second g).after).after = (a.annotate second g).after) ∧
      ∀ s l, (VariantOptions.provider s l).IgnoresNotes := by
  have hagrees (language : Option String) :
      (a.annotate second (a.annotate language g).after).Agrees (a.annotate second g) :=
    (annotateParts_agrees fun e _ => annotateExpr_agrees hignore e).map _
  exact ⟨(hagrees first).failure,
    fun hcompletes => ⟨(hagrees first).after hcompletes, (hagrees second).after hcompletes⟩,
    VariantOptions.ignoresNotes_provider⟩

/-- A shop with one colour, which has a name in German. -/
def bilingualPalette : Store where
  catalog := [⟨3, 0, ⟨some "Colour", .object [("de", .text "Farbe")]⟩⟩]
  ruleSets := []
  attributes := [⟨20, 1, 3, none, 0⟩]
  values := [⟨5, 20, 0, ⟨some "red", .object [("de", .text "rot")]⟩⟩]

def paletteAnnotator : Annotator where
  localizer := .builtIn "en"
  providers := [VariantOptions.provider bilingualPalette (.builtIn "en")]
  defaultLanguage := "en"

/-- A group with a nested condition that bears a note under the key of the names, and a condition
that is no longer supported. -/
def notedGroup : Group where
  head := headOf .productAttribute 1 .every false
  parts := [
    .group (headOf .productAttribute 2 .some true) [
      .leaf ⟨10, some (Attribute.descriptorOf (.builtIn "en") "en" ⟨3, 0, ⟨some "Colour", .null⟩⟩),
        .anyIn, .list [.int 5], none, [(selectedKey, .value .null)]⟩],
    .leaf ⟨11, none, .equal, .null, none, []⟩]

theorem notedGroup_in_english_after_german :
    (∀ p ∈ paletteAnnotator.providers, p.IgnoresNotes) ∧
      (paletteAnnotator.annotate (some "en") notedGroup).failure = none ∧
      (paletteAnnotator.annotate (some "en")
          (paletteAnnotator.annotate (some "de") notedGroup).after).after =
        (paletteAnnotator.annotate (some "en") notedGroup).after := by
  have hignore : ∀ p ∈ paletteAnnotator.providers, p.IgnoresNotes :=
    List.forall_mem_singleton.2 (VariantOptions.ignoresNotes_provider _ _)
  have hcompletes : (paletteAnnotator.annotate (some "en") notedGroup).failure = none := by cbv
  exact ⟨hignore, hcompletes,
    ((last_enrichment_wins paletteAnnotator hignore (some "de") (some "en") notedGroup).2.1
      hcompletes).1⟩

end Rulebook
