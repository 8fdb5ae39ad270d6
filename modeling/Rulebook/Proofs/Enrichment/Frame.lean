import Mathlib
import Rulebook.Attribute
import Rulebook.Proofs.Evaluation.ShortCircuit

/-!
# Enrichment as a frame

Enrichment puts notes on conditions, and leaves everything else as it is: the shape of the tree, its
groups with their notes, and all of a condition but its notes. This holds wherever the work ends,
also midway at a provider that fails.

Processors that ignore notes decide the tree as before, after the same conditions in the same order
and with the same failure.
-/

namespace Rulebook

open Annotator

/-! ## Notes -/

section Keyed

variable {α : Type} {key key' : String} {x : α} {items : List (String × α)}

theorem lookup_putKeyed_of_ne (h : key' ≠ key) :
    (putKeyed key x items).lookup key' = items.lookup key' := by
  have hne : (key' == key) = false := beq_eq_false_iff_ne.2 h
  induction items with
  | nil => simp [putKeyed, List.lookup_cons, hne]
  | cons item rest ih =>
    obtain ⟨k, y⟩ := item
    rw [putKeyed]
    split
    · next hk => simp [List.lookup_cons, hk, hne]
    · rw [List.lookup_cons, List.lookup_cons, ih]

theorem lookup_putKeyed_self : (putKeyed key x items).lookup key = some x := by
  induction items with
  | nil => simp [putKeyed]
  | cons item rest ih =>
    obtain ⟨k, y⟩ := item
    rw [putKeyed]
    split
    · next hk => simp [hk]
    · next hk => simp [List.lookup_cons, ih, beq_eq_false_iff_ne.2 (Ne.symm hk)]

/-- A key that is there keeps its place, and any other comes last. -/
theorem keys_putKeyed : (putKeyed key x items).map Prod.fst =
    if key ∈ items.map Prod.fst then items.map Prod.fst else items.map Prod.fst ++ [key] := by
  induction items with
  | nil => rfl
  | cons item rest ih =>
    obtain ⟨k, y⟩ := item
    by_cases hk : k = key
    · simp [putKeyed, hk]
    · rw [putKeyed, if_neg hk, List.map_cons, ih]
      simp only [List.map_cons, List.mem_cons, Ne.symm hk, false_or]
      split <;> rfl

theorem mem_keys_putKeyed : key ∈ (putKeyed key x items).map Prod.fst := by
  rw [keys_putKeyed]
  split
  · assumption
  · simp

theorem putKeyed_of_notMem (h : key ∉ items.map Prod.fst) :
    putKeyed key x items = items ++ [(key, x)] := by
  induction items with
  | nil => rfl
  | cons item rest ih =>
    obtain ⟨hne, hrest⟩ := not_or.1 (mt List.mem_cons.2 h)
    rw [putKeyed, if_neg (Ne.symm hne), ih hrest]
    rfl

theorem keys_prefix_putKeyed : items.map Prod.fst <+: (putKeyed key x items).map Prod.fst := by
  rw [keys_putKeyed]
  split
  · exact List.prefix_rfl
  · exact List.prefix_append _ _

theorem nodup_keys_putKeyed (h : (items.map Prod.fst).Nodup) :
    ((putKeyed key x items).map Prod.fst).Nodup := by
  rw [keys_putKeyed]
  split
  · exact h
  · next hnew => exact h.append (List.nodup_singleton key) (by simpa using hnew)

theorem mem_putKeyed {e : String × α} (h : e ∈ putKeyed key x items) : e = (key, x) ∨ e ∈ items := by
  induction items with
  | nil => exact .inl (List.mem_singleton.1 h)
  | cons item rest ih =>
    obtain ⟨k, y⟩ := item
    rw [putKeyed] at h
    split at h
    · next hk =>
      rcases List.mem_cons.1 h with rfl | h
      · exact .inl (by rw [hk])
      · exact .inr (List.mem_cons_of_mem _ h)
    · rcases List.mem_cons.1 h with rfl | h
      · exact .inr List.mem_cons_self
      · exact (ih h).imp_right (List.mem_cons_of_mem _)

end Keyed

/-- The notes that enrichment may put on a condition. -/
inductive Annotator.MayPut (a : Annotator) (c : Leaf) : String → Prop where
  | error (h : isUnsupported c = true) : MayPut a c errorKey
  | selected {source : String} {p : OptionsProvider} (hsource : c.dataSource? = some source)
      (hp : p ∈ a.providers) (hserves : p.serves source = true) : MayPut a c selectedKey

/-- A condition, and the same with notes that enrichment may have put on it. -/
structure Leaf.Noted (a : Annotator) (c c' : Leaf) : Prop where
  same : { c' with notes := c.notes } = c
  /-- No note is taken away, and those that are there keep their places. -/
  kept : c.notes.map Prod.fst <+: c'.notes.map Prod.fst
  changed : ∀ key, c'.notes.lookup key ≠ c.notes.lookup key → a.MayPut c key

/-- An expression, and the same with notes that enrichment may have put on its conditions. -/
inductive Expr.Noted (a : Annotator) : Expr → Expr → Prop where
  | leaf {c c' : Leaf} (h : c.Noted a c') : Noted a (.leaf c) (.leaf c')
  | group (head : GroupHead) {parts parts' : List Expr} (h : List.Forall₂ (Noted a) parts parts') :
      Noted a (.group head parts) (.group head parts')

variable {a : Annotator} {c c' : Leaf}

namespace Leaf.Noted

theorem refl (a : Annotator) (c : Leaf) : c.Noted a c := ⟨rfl, List.prefix_rfl, fun _ h => absurd rfl h⟩

theorem eq (h : c.Noted a c') : c' = { c with notes := c'.notes } := by
  rw [← h.same]

theorem put {key : String} (note : Note) (h : c.Noted a c') (hkey : a.MayPut c key) :
    c.Noted a (putNote key note c') := by
  refine ⟨h.same, h.kept.trans keys_prefix_putKeyed, fun key' hchanged => ?_⟩
  by_cases hne : key' = key
  · exact hne ▸ hkey
  · apply h.changed
    rwa [putNote, lookup_putKeyed_of_ne hne] at hchanged

end Leaf.Noted

theorem Expr.noted_refl (a : Annotator) (e : Expr) : e.Noted a e := by
  induction e using Expr.parts_induction with
  | leaf c => exact .leaf (.refl a c)
  | group head parts ih => exact .group head (List.forall₂_same.2 ih)

/-! ## Putting notes -/

/-- The note on a condition that is no longer supported. -/
def Annotator.errorNote (a : Annotator) (language : String) : Note :=
  .value (.text (a.localizer.localize invalidDescriptorKey (some language)))

theorem markUnsupported_of_unsupported (h : isUnsupported c = true) (language : String) :
    a.markUnsupported language c = putNote errorKey (a.errorNote language) c := if_pos h

theorem markUnsupported_of_supported (h : ¬ isUnsupported c = true) (language : String) :
    a.markUnsupported language c = c := if_neg h

theorem markUnsupported_noted (language : String) (c : Leaf) :
    c.Noted a (a.markUnsupported language c) := by
  unfold markUnsupported
  split
  · next h => exact (Leaf.Noted.refl a c).put _ (.error h)
  · exact .refl a c

theorem mayPut_selected {p : OptionsProvider} (h : c.Noted a c') (hp : a.providerOf c' = some p) :
    a.MayPut c selectedKey := by
  obtain ⟨source, hsource, hfind⟩ := Option.bind_eq_some_iff.1 hp
  -- the data source stands in the descriptor, which is the same
  rw [h.eq] at hsource
  have hserves : p.serves source = true := by simpa using List.find?_some hfind
  exact .selected hsource (List.mem_of_find?_eq_some hfind) hserves

theorem annotateLeaf_noted (language : String) (c : Leaf) :
    c.Noted a (a.annotateLeaf language c).after := by
  have hmarked : c.Noted a (a.markUnsupported language c) := markUnsupported_noted language c
  simp only [annotateLeaf]
  split
  · exact hmarked
  · next p hp =>
    split
    · exact hmarked
    · exact hmarked.put _ (mayPut_selected hmarked hp)

theorem annotateParts_noted {language : String} {parts : List Expr}
    (h : ∀ e ∈ parts, e.Noted a (a.annotateExpr language e).after) :
    List.Forall₂ (Expr.Noted a) parts (a.annotateParts language parts).after := by
  induction parts with
  | nil => exact .nil
  | cons e rest ih =>
    rw [List.forall_mem_cons] at h
    rw [annotateParts]
    cases (a.annotateExpr language e).failure with
    | some f => exact .cons h.1 (List.forall₂_same.2 fun e' _ => e'.noted_refl a)
    | none => exact .cons h.1 (ih h.2)

theorem annotateExpr_noted (language : String) (e : Expr) :
    e.Noted a (a.annotateExpr language e).after := by
  induction e using Expr.parts_induction with
  | leaf c =>
    rw [annotateExpr]
    exact .leaf (annotateLeaf_noted language c)
  | group head parts ih =>
    rw [annotateExpr]
    exact .group head (annotateParts_noted ih)

theorem annotate_noted (a : Annotator) (language : Option String) (g : Group) :
    g.toExpr.Noted a (a.annotate language g).after.toExpr :=
  .group g.head (annotateParts_noted fun e _ => annotateExpr_noted _ e)

/-! ## Failures -/

/-- Some provider fails when it is asked for the names of selected values. -/
def Annotator.MayFail (a : Annotator) (f : Failure) : Prop :=
  ∃ p ∈ a.providers, ∃ language c, p.options (selectedRequest language c) = .error f

theorem mayFail_of_annotateLeaf {language : String} {f : Failure}
    (h : (a.annotateLeaf language c).failure = some f) : a.MayFail f := by
  simp only [annotateLeaf] at h
  split at h
  · cases h
  · next p hp =>
    obtain ⟨source, -, hfind⟩ := Option.bind_eq_some_iff.1 hp
    split at h
    · next herror =>
      cases h
      exact ⟨p, List.mem_of_find?_eq_some hfind, language, _, herror⟩
    · cases h

theorem mayFail_of_annotateParts {language : String} {f : Failure} {parts : List Expr}
    (ih : ∀ e ∈ parts, (a.annotateExpr language e).failure = some f → a.MayFail f)
    (h : (a.annotateParts language parts).failure = some f) : a.MayFail f := by
  induction parts with
  | nil => cases h
  | cons e rest ihrest =>
    rw [List.forall_mem_cons] at ih
    rw [annotateParts] at h
    cases hfirst : (a.annotateExpr language e).failure with
    | some f' =>
      simp only [hfirst] at h
      cases h
      exact ih.1 hfirst
    | none =>
      simp only [hfirst] at h
      exact ihrest ih.2 h

theorem mayFail_of_annotateExpr {language : String} {f : Failure} {e : Expr}
    (h : (a.annotateExpr language e).failure = some f) : a.MayFail f := by
  induction e using Expr.parts_induction with
  | leaf c =>
    rw [annotateExpr] at h
    exact mayFail_of_annotateLeaf h
  | group head parts ih =>
    rw [annotateExpr] at h
    exact mayFail_of_annotateParts ih h

theorem mayFail_of_annotate {language : Option String} {g : Group} {f : Failure}
    (h : (a.annotate language g).failure = some f) : a.MayFail f :=
  mayFail_of_annotateParts (fun _ _ => mayFail_of_annotateExpr) h

/-! ## Evaluation -/

/-- A processor whose answers do not depend on notes. -/
def Processor.IgnoresNotes (p : Processor) : Prop :=
  ∀ (c : Leaf) (notes : Notes), p { c with notes := notes } = p c

/-- Every registered processor ignores notes. -/
def Registry.IgnoresNotes (processors : Registry Processor) : Prop :=
  ∀ key p, processors.lookup key = some p → Processor.IgnoresNotes p

/-- Two runs with the same outcome, over the same conditions but for their notes. -/
structure Run.Noted (a : Annotator) (r r' : Run) : Prop where
  outcome : r'.outcome = r.outcome
  trace : List.Forall₂ (Leaf.Noted a) r.trace r'.trace

section Evaluation

variable {processors : Registry Processor}

theorem Leaf.run_noted (hignore : processors.IgnoresNotes) (h : c.Noted a c') :
    Run.Noted a (c.run processors) (c'.run processors) := by
  have hc' := h.eq
  -- what a run looks at, besides the notes, is the same on both sides
  have hdescriptor : c'.descriptor = c.descriptor := by rw [hc']
  unfold Leaf.run
  rw [hdescriptor]
  cases c.descriptor with
  | none => exact ⟨by rw [hc'], .nil⟩
  | some d =>
    by_cases hcomposite : d.isComposite = true
    · simp only [hcomposite, if_true]
      exact ⟨rfl, .nil⟩
    · simp only [hcomposite]
      by_cases hp : d.processor = "" ∨ processors.lookup d.processor = none
      · rw [Registry.resolve_of_unregistered hp]
        exact ⟨rfl, .nil⟩
      · obtain ⟨hnamed, hp⟩ := not_or.1 hp
        obtain ⟨p, hp⟩ := Option.ne_none_iff_exists'.1 hp
        rw [Registry.resolve_of_registered hnamed hp]
        refine ⟨?_, .cons h .nil⟩
        show p c' = p c
        rw [hc', hignore _ p hp]

theorem Expr.runParts_noted {k : Connective} {parts parts' : List Expr}
    (ih : ∀ e ∈ parts, ∀ e', e.Noted a e' → Run.Noted a (e.run processors) (e'.run processors))
    (h : List.Forall₂ (Expr.Noted a) parts parts') :
    Run.Noted a (runParts processors k parts) (runParts processors k parts') := by
  induction h with
  | nil => exact ⟨rfl, .nil⟩
  | @cons e e' rest rest' he hrest ihrest =>
    rw [List.forall_mem_cons] at ih
    have hfirst := ih.1 e' he
    have houtcome := hfirst.outcome
    by_cases hopen : (e.run processors).outcome = .ok (!k.stopsAt)
    · have hmore := ihrest ih.2
      rw [runParts_cons_of_open hopen, runParts_cons_of_open (houtcome.trans hopen)]
      exact ⟨hmore.outcome, List.rel_append hfirst.trace hmore.trace⟩
    · rw [runParts_cons_of_settled hopen, runParts_cons_of_settled (houtcome ▸ hopen)]
      exact hfirst

theorem Expr.run_noted (hignore : processors.IgnoresNotes) {e e' : Expr} (h : e.Noted a e') :
    Run.Noted a (e.run processors) (e'.run processors) := by
  induction e using Expr.parts_induction generalizing e' with
  | leaf c =>
    cases h with
    | leaf hc =>
      rw [Expr.run, Expr.run]
      exact Leaf.run_noted hignore hc
  | group head parts ih =>
    cases h with
    | @group _ _ parts' hparts =>
      by_cases hne : parts = []
      · subst hne
        cases hparts
        rw [run_group_nil]
        exact ⟨rfl, .nil⟩
      · have hne' : parts' ≠ [] := by
          rintro rfl
          exact hne (List.forall₂_nil_right_iff.1 hparts)
        rw [run_group_of_ne_nil hne, run_group_of_ne_nil hne']
        exact runParts_noted (fun e he e' he' => ih e he he') hparts

theorem ignoresNotes_attribute (selection : Attribute.Selection) :
    (Attribute.processors selection).IgnoresNotes := by
  intro key p hp
  rw [Attribute.processors, List.lookup_cons] at hp
  split at hp
  · cases hp
    exact fun c notes => rfl
  · cases hp

end Evaluation

/-- Enrichment changes nothing but the notes that it may put on conditions, whether or not it comes
to its end. So the tree is decided as before, by every processor that ignores notes, as those of
attributes do: to the same outcome, and after the same conditions in the same order. -/
theorem enrichment_changes_notes_only (a : Annotator) (language : Option String) (g : Group) :
    g.toExpr.Noted a (a.annotate language g).after.toExpr ∧
      (∀ processors : Registry Processor, processors.IgnoresNotes →
        Run.Noted a (g.run processors) ((a.annotate language g).after.run processors)) ∧
      ∀ selection, (Attribute.processors selection).IgnoresNotes :=
  ⟨annotate_noted a language g, fun _ hignore => Expr.run_noted hignore (annotate_noted a language g),
    ignoresNotes_attribute⟩

/-- An annotator whose only provider fails. -/
def brokenAnnotator : Annotator where
  localizer := .builtIn "en"
  providers := [⟨fun source => source == "colours", fun _ => .error .processor⟩]
  defaultLanguage := "en"

/-- A kind of condition whose values come from the provider that fails. -/
def colourKind : Descriptor where
  scope := .cart
  name := "colour"
  displayName := none
  groupKey := none
  kind := .string
  operators := [.equal]
  selectList := some (.remote "colours" true)
  processor := "fact"
  metadata := []
  isValid := true

/-- A group in which the work ends at a nested condition, with a condition of an unknown kind before
and after it. -/
def interruptedGroup : Group where
  head := headOf .cart 1 .some false
  parts := [
    .leaf ⟨10, some (.unknown .cart (some "size")), .equal, .text "L", some "L", []⟩,
    .group (headOf .cart 2 .every true) [
      .leaf ⟨11, some colourKind, .equal, .text "red", some "red", []⟩],
    .leaf ⟨12, none, .equal, .null, none, []⟩]

theorem interruptedGroup_decided_alike :
    (brokenAnnotator.annotate none interruptedGroup).failure.isSome = true ∧
      ((brokenAnnotator.annotate none interruptedGroup).after.toExpr.leaves.map fun c =>
        c.notes.map Prod.fst) = [["error"], [], []] ∧
      Registry.IgnoresNotes [("fact", .constant true), ("invalid", .constant false)] ∧
      Run.Noted brokenAnnotator
        (interruptedGroup.run [("fact", .constant true), ("invalid", .constant false)])
        ((brokenAnnotator.annotate none interruptedGroup).after.run
          [("fact", .constant true), ("invalid", .constant false)]) := by
  have hignore : Registry.IgnoresNotes [("fact", .constant true), ("invalid", .constant false)] := by
    intro key p hp
    have hp' : p = .constant true ∨ p = .constant false := by
      simp only [List.lookup_cons, List.lookup_nil] at hp
      split at hp
      · exact .inl (Option.some.inj hp).symm
      · split at hp
        · exact .inr (Option.some.inj hp).symm
        · cases hp
    rcases hp' with rfl | rfl
    · exact fun c notes => rfl
    · exact fun c notes => rfl
  exact ⟨by cbv, by cbv, hignore,
    (enrichment_changes_notes_only brokenAnnotator none interruptedGroup).2.1 _ hignore⟩

end Rulebook
