import Mathlib
import Rulebook.Engine
import Rulebook.Proofs.Enrichment.Frame
import Rulebook.Proofs.Compile.Step

/-!
# Where enrichment comes to its end

Enrichment visits the conditions of a tree one after another, and ends early at the first one whose
provider fails. Where none fails, every condition gets its notes.

The provider of the values of attributes passes over what is no number, and names nothing for a
number without a value. What it does not take is a number beyond all whole numbers, or one that does
not fit into the store. So the work ends early exactly where some condition lists such a number;
otherwise the names of the selected values are those of the stored values that the condition lists.
-/

namespace Rulebook

open Annotator
open Rulebook.Checked (fitsWord)

/-! ## Along a tree -/

section Tree

variable {a : Annotator} {language : String}

theorem failure_annotateParts {parts : List Expr}
    (h : ∀ e ∈ parts, (a.annotateExpr language e).failure =
      e.leaves.findSome? fun c => (a.annotateLeaf language c).failure) :
    (a.annotateParts language parts).failure =
      (parts.flatMap Expr.leaves).findSome? fun c => (a.annotateLeaf language c).failure := by
  induction parts with
  | nil => rfl
  | cons e rest ih =>
    rw [List.forall_mem_cons] at h
    rw [annotateParts, List.flatMap_cons, List.findSome?_append, ← h.1]
    -- the search ends at this part, or goes on with the rest
    cases (a.annotateExpr language e).failure with
    | some f => rfl
    | none => exact ih h.2

/-- The work fails as it does at the first condition where it fails. -/
theorem failure_annotateExpr (e : Expr) :
    (a.annotateExpr language e).failure =
      e.leaves.findSome? fun c => (a.annotateLeaf language c).failure := by
  induction e using Expr.parts_induction with
  | leaf c =>
    rw [annotateExpr, Expr.leaves_leaf, List.findSome?_singleton]
    rfl
  | group head parts ih =>
    rw [annotateExpr, Expr.leaves_group]
    exact failure_annotateParts ih

theorem leaves_annotateParts {parts : List Expr}
    (ih : ∀ e ∈ parts, (a.annotateExpr language e).failure = none →
      (a.annotateExpr language e).after.leaves =
        e.leaves.map fun c => (a.annotateLeaf language c).after)
    (h : (a.annotateParts language parts).failure = none) :
    (a.annotateParts language parts).after.flatMap Expr.leaves =
      (parts.flatMap Expr.leaves).map fun c => (a.annotateLeaf language c).after := by
  induction parts with
  | nil => rfl
  | cons e rest ihrest =>
    rw [List.forall_mem_cons] at ih
    rw [annotateParts] at h ⊢
    cases hfirst : (a.annotateExpr language e).failure with
    | some f =>
      -- then the work would have ended here
      simp [hfirst] at h
    | none =>
      simp only [hfirst] at h ⊢
      rw [List.flatMap_cons, List.map_append, ← ih.1 hfirst, ← ihrest ih.2 h]
      exact List.flatMap_cons

/-- Work that comes to its end puts notes on every condition. -/
theorem leaves_annotateExpr {e : Expr} (h : (a.annotateExpr language e).failure = none) :
    (a.annotateExpr language e).after.leaves =
      e.leaves.map fun c => (a.annotateLeaf language c).after := by
  induction e using Expr.parts_induction with
  | leaf c =>
    rw [annotateExpr, Expr.leaves_leaf]
    exact Expr.leaves_leaf _
  | group head parts ih =>
    rw [annotateExpr] at h ⊢
    rw [Expr.leaves_group, ← leaves_annotateParts ih h]
    exact Expr.leaves_group head _

/-- A group is enriched as the expression that it is. -/
theorem failure_annotate (a : Annotator) (language : Option String) (g : Group) :
    (a.annotate language g).failure = g.toExpr.leaves.findSome? fun c =>
      (a.annotateLeaf ((Localizer.given language).getD a.defaultLanguage) c).failure := by
  rw [← failure_annotateExpr, annotate, Group.toExpr, annotateExpr]
  rfl

theorem leaves_annotate {language : Option String} {g : Group}
    (h : (a.annotate language g).failure = none) :
    (a.annotate language g).after.toExpr.leaves = g.toExpr.leaves.map fun c =>
      (a.annotateLeaf ((Localizer.given language).getD a.defaultLanguage) c).after := by
  rw [failure_annotate, ← failure_annotateExpr] at h
  rw [← leaves_annotateExpr h, annotate, Group.toExpr, Group.toExpr, annotateExpr]
  rfl

end Tree

/-! ## Numbers of values -/

namespace VariantOptions

/-- A value that stands for a number which the store does not take: one beyond all whole numbers, or
one that is too large. -/
inductive BeyondStore : Value → Prop where
  | infinite (negative : Bool) : BeyondStore (.double (.infinity negative))
  | number {v : Value} {n : Int} (h : v.toInt = .ok n) (hn : fitsWord n = false) : BeyondStore v

/-- A condition lists the number. -/
def Lists (c : Leaf) (n : Int) : Prop := ∃ v ∈ c.value.listed, v.toInt = .ok n

theorem toInt_eq_outOfRange_iff {v : Value} :
    v.toInt = .error .outOfRange ↔ ∃ negative, v = .double (.infinity negative) := by
  constructor
  · intro h
    cases v with
    | double d =>
      cases d with
      | infinity negative => exact ⟨negative, rfl⟩
      | _ => cases h
    | text s =>
      rw [Value.toInt] at h
      split at h <;> cases h
    | _ => cases h
  · rintro ⟨negative, rfl⟩
    rfl

theorem toInt_eq_error {v : Value} {f : Failure} (h : v.toInt = .error f) :
    f = .unreadable ∨ f = .wrongKind ∨ f = .outOfRange := by
  cases v with
  | int | bool => cases h
  | double d =>
    cases d with
    | nan =>
      cases h
      exact .inl rfl
    | infinity negative =>
      cases h
      exact .inr (.inr rfl)
    | negativeZero | finite => cases h
  | text s =>
    rw [Value.toInt] at h
    split at h
    · cases h
    · cases h
      exact .inl rfl
  | sharedNan object =>
    cases h
    exact .inl rfl
  | _ =>
    cases h
    exact .inr (.inl rfl)

/-- What is no number is passed over. -/
theorem valueIds_eq_ok {vs : List Value} (h : ∀ v ∈ vs, v.toInt ≠ .error .outOfRange) :
    valueIds vs = .ok (vs.filterMap fun v => v.toInt.toOption) := by
  induction vs with
  | nil => rfl
  | cons v rest ih =>
    rw [List.forall_mem_cons] at h
    rw [valueIds, List.filterMap_cons, ih h.2]
    cases hv : v.toInt with
    | ok n => rfl
    | error f =>
      rcases toInt_eq_error hv with rfl | rfl | rfl
      · rfl
      · rfl
      · exact absurd hv h.1

theorem valueIds_eq_outOfRange {vs : List Value} {v : Value} (hmem : v ∈ vs)
    (hv : v.toInt = .error .outOfRange) : valueIds vs = .error .outOfRange := by
  induction vs with
  | nil => cases hmem
  | cons first rest ih =>
    rw [valueIds]
    rcases List.mem_cons.1 hmem with rfl | hrest
    · rw [hv]
    · -- what stands before it cannot hide it
      rw [ih hrest]
      cases hfirst : first.toInt with
      | ok n => rfl
      | error f => rcases toInt_eq_error hfirst with rfl | rfl | rfl <;> rfl

/-- The stored values whose numbers a condition lists, in display order. -/
def selectedValues (s : Store) (c : Leaf) : List VariantValue :=
  sortByPlace VariantValue.place
    (s.values.filter fun v => c.value.listed.any fun item => item.toInt.toOption = some v.id)

variable {s : Store} {l : Localizer} {request : OptionsRequest}

theorem toOption_eq_some_iff {x : Result Int} {n : Int} : x.toOption = some n ↔ x = .ok n := by
  cases x <;> simp [Except.toOption]

theorem mem_selectedValues {c : Leaf} {v : VariantValue} :
    v ∈ selectedValues s c ↔ v ∈ s.values ∧ Lists c v.id := by
  simp [selectedValues, sortByPlace, List.mem_mergeSort, Lists, toOption_eq_some_iff]

theorem mem_numbers {c : Leaf} {n : Int} :
    n ∈ c.value.listed.filterMap (fun v => v.toInt.toOption) ↔ Lists c n := by
  simp [List.mem_filterMap, Lists, toOption_eq_some_iff]

theorem findValues_eq_ok {c : Leaf} (h : ∀ v ∈ c.value.listed, ¬ BeyondStore v) :
    s.findValues (c.value.listed.filterMap fun v => v.toInt.toOption) = .ok (selectedValues s c) := by
  have hfits : (c.value.listed.filterMap fun v => v.toInt.toOption).all fitsWord = true := by
    rw [List.all_eq_true]
    intro n hn
    obtain ⟨v, hv, hread⟩ := mem_numbers.1 hn
    by_contra hlarge
    exact h v hv (.number hread (by simpa using hlarge))
  rw [Store.findValues, if_pos hfits, selectedValues]
  congr 2
  apply List.filter_congr
  intro v _
  rw [Bool.eq_iff_iff, List.contains_iff_mem, mem_numbers]
  simp [Lists, toOption_eq_some_iff]

theorem selectedOptions_eq_ok (h : ∀ v ∈ request.condition.value.listed, ¬ BeyondStore v) :
    selectedOptions s l request =
      .ok ⟨(selectedValues s request.condition).map (optionOf s l request.language), false⟩ := by
  have hfinite : ∀ v ∈ request.condition.value.listed, v.toInt ≠ .error .outOfRange := by
    intro v hv hbeyond
    obtain ⟨negative, rfl⟩ := toInt_eq_outOfRange_iff.1 hbeyond
    exact h _ hv (.infinite negative)
  rw [selectedOptions, valueIds_eq_ok hfinite]
  show (s.findValues _ >>= _) = _
  rw [findValues_eq_ok h]
  rfl

theorem selectedOptions_eq_outOfRange {v : Value} (hmem : v ∈ request.condition.value.listed)
    (hv : BeyondStore v) : selectedOptions s l request = .error .outOfRange := by
  -- the conversion comes before the store, and fails first
  by_cases hinfinite : ∃ v ∈ request.condition.value.listed, v.toInt = .error .outOfRange
  · obtain ⟨v', hmem', hv'⟩ := hinfinite
    rw [selectedOptions, valueIds_eq_outOfRange hmem' hv']
    rfl
  · rw [selectedOptions, valueIds_eq_ok fun v hv h => hinfinite ⟨v, hv, h⟩]
    -- all numbers are read, and the store refuses one of them
    cases hv with
    | infinite negative => exact absurd ⟨_, hmem, rfl⟩ hinfinite
    | number hread hlarge =>
      rename_i n
      have hrefused : s.findValues (request.condition.value.listed.filterMap
          fun v => v.toInt.toOption) = .error .outOfRange := by
        rw [Store.findValues, if_neg]
        rw [List.all_eq_true]
        intro hfits
        simp [hfits n (mem_numbers.2 ⟨v, hmem, hread⟩)] at hlarge
      show (s.findValues _ >>= _) = _
      rw [hrefused]
      rfl

theorem selectedOptions_eq_error {f : Failure} (h : selectedOptions s l request = .error f) :
    f = .outOfRange := by
  by_cases hbeyond : ∃ v ∈ request.condition.value.listed, BeyondStore v
  · obtain ⟨v, hmem, hv⟩ := hbeyond
    rw [selectedOptions_eq_outOfRange hmem hv] at h
    cases h
    rfl
  · rw [selectedOptions_eq_ok fun v hmem hv => hbeyond ⟨v, hmem, hv⟩] at h
    cases h

/-! ## Notes with names -/

/-- The entries of options are put among entries one after another. -/
def putOptions (options : List SelectOption) (entries : List (String × Display)) :
    List (String × Display) :=
  options.foldl (fun entries o => putKeyed o.value ⟨o.text, o.hint⟩ entries) entries

/-- The entry of a stored value. -/
def entryOf (s : Store) (l : Localizer) (language : String) (v : VariantValue) : String × Display :=
  let o := optionOf s l (some language) v
  (o.value, ⟨o.text, o.hint⟩)

/-- The names of the values that a condition lists: an entry for each stored value among them, and
no other. -/
structure NamesSelected (s : Store) (l : Localizer) (language : String) (c : Leaf)
    (entries : List (String × Display)) : Prop where
  distinct : (entries.map Prod.fst).Nodup
  named : ∀ v ∈ s.values, Lists c v.id → toString v.id ∈ entries.map Prod.fst
  only : ∀ e ∈ entries, ∃ v ∈ s.values, Lists c v.id ∧ e = entryOf s l language v

theorem nodup_keys_putOptions {options : List SelectOption} {entries : List (String × Display)}
    (h : (entries.map Prod.fst).Nodup) : ((putOptions options entries).map Prod.fst).Nodup := by
  induction options generalizing entries with
  | nil => exact h
  | cons o rest ih => exact ih (nodup_keys_putKeyed h)

theorem keys_prefix_putOptions (options : List SelectOption) (entries : List (String × Display)) :
    entries.map Prod.fst <+: (putOptions options entries).map Prod.fst := by
  induction options generalizing entries with
  | nil => exact List.prefix_rfl
  | cons o rest ih => exact keys_prefix_putKeyed.trans (ih _)

theorem mem_keys_putOptions {options : List SelectOption} {o : SelectOption} (h : o ∈ options)
    (entries : List (String × Display)) :
    o.value ∈ (putOptions options entries).map Prod.fst := by
  induction options generalizing entries with
  | nil => cases h
  | cons first rest ih =>
    rcases List.mem_cons.1 h with rfl | h
    · -- once it is there, the key stays
      exact (keys_prefix_putOptions rest _).subset mem_keys_putKeyed
    · exact ih h _

theorem mem_putOptions {options : List SelectOption} {entries : List (String × Display)}
    {e : String × Display} (h : e ∈ putOptions options entries) :
    e ∈ entries ∨ ∃ o ∈ options, e = (o.value, ⟨o.text, o.hint⟩) := by
  induction options generalizing entries with
  | nil => exact .inl h
  | cons first rest ih =>
    rcases ih h with h | ⟨o, ho, rfl⟩
    · rcases mem_putKeyed h with rfl | h
      · exact .inr ⟨first, List.mem_cons_self, rfl⟩
      · exact .inl h
    · exact .inr ⟨o, List.mem_cons_of_mem _ ho, rfl⟩

theorem namesSelected_putOptions (s : Store) (l : Localizer) (language : String) (c : Leaf) :
    NamesSelected s l language c
      (putOptions ((selectedValues s c).map (optionOf s l (some language))) []) := by
  refine ⟨nodup_keys_putOptions List.nodup_nil, fun v hv hlisted => ?_, fun e he => ?_⟩
  · have hoption : optionOf s l (some language) v ∈
        (selectedValues s c).map (optionOf s l (some language)) :=
      List.mem_map_of_mem (mem_selectedValues.2 ⟨hv, hlisted⟩)
    exact mem_keys_putOptions hoption []
  · rcases mem_putOptions he with he | ⟨o, ho, rfl⟩
    · cases he
    · obtain ⟨v, hv, rfl⟩ := List.mem_map.1 ho
      obtain ⟨hstored, hlisted⟩ := mem_selectedValues.1 hv
      exact ⟨v, hstored, hlisted, rfl⟩

end VariantOptions

/-! ## The values of attributes -/

section Variants

open VariantOptions

variable {a : Annotator} {s : Store} {l : Localizer} {language : String} {c : Leaf}

/-- The values of the condition come from the values of an attribute. -/
def Leaf.IsOnVariants (c : Leaf) : Prop := c.dataSource? = some VariantOptions.dataSource

/-- A condition, and the same with the names of its values if they are those of an attribute. -/
def Leaf.ShowsSelected (s : Store) (l : Localizer) (language : String) (c c' : Leaf) : Prop :=
  c.IsOnVariants → ∃ entries, c'.notes.lookup selectedKey = some (.selected entries) ∧
    NamesSelected s l language c entries

theorem providerOf_of_isOnVariants (h : a.providers = [provider s l]) (hc : c.IsOnVariants) :
    a.providerOf c = some (provider s l) := by
  rw [Leaf.IsOnVariants] at hc
  simp [providerOf, h, hc, provider]

theorem providerOf_of_not_isOnVariants (h : a.providers = [provider s l])
    (hc : ¬ c.IsOnVariants) : a.providerOf c = none := by
  rw [Leaf.IsOnVariants] at hc
  rw [providerOf, h, Option.bind_eq_none_iff]
  intro source hsource
  have hother : source ≠ dataSource := fun hsame => hc (hsame ▸ hsource)
  simp [provider, hother]

theorem annotateLeaf_of_not_isOnVariants (h : a.providers = [provider s l])
    (hc : ¬ c.IsOnVariants) :
    a.annotateLeaf language c = ⟨a.markUnsupported language c, none⟩ := by
  have hprovider : a.providerOf (a.markUnsupported language c) = none := by
    rw [(markUnsupported_noted language c).eq]
    exact providerOf_of_not_isOnVariants h hc
  simp only [annotateLeaf, hprovider]

theorem providerOf_markUnsupported (h : a.providers = [provider s l]) (hc : c.IsOnVariants) :
    a.providerOf (a.markUnsupported language c) = some (provider s l) := by
  rw [(markUnsupported_noted language c).eq]
  exact providerOf_of_isOnVariants h hc

/-- The provider is asked for the values that the condition lists, with or without a note. -/
theorem annotateLeaf_of_within (h : a.providers = [provider s l]) (hc : c.IsOnVariants)
    (hwithin : ∀ v ∈ c.value.listed, ¬ BeyondStore v) :
    a.annotateLeaf language c =
      ⟨putNote selectedKey
        (.selected (putOptions ((selectedValues s c).map (optionOf s l (some language))) []))
        (a.markUnsupported language c), none⟩ := by
  have hasked : (provider s l).options (selectedRequest language (a.markUnsupported language c)) =
      .ok ⟨(selectedValues s c).map (optionOf s l (some language)), false⟩ := by
    rw [(markUnsupported_noted language c).eq]
    exact selectedOptions_eq_ok hwithin
  simp only [annotateLeaf, providerOf_markUnsupported h hc, hasked]
  rfl

theorem annotateLeaf_of_beyond (h : a.providers = [provider s l]) (hc : c.IsOnVariants) {v : Value}
    (hmem : v ∈ c.value.listed) (hv : BeyondStore v) :
    a.annotateLeaf language c = ⟨a.markUnsupported language c, some .outOfRange⟩ := by
  have hasked : (provider s l).options (selectedRequest language (a.markUnsupported language c)) =
      .error .outOfRange := by
    rw [(markUnsupported_noted language c).eq]
    exact selectedOptions_eq_outOfRange hmem hv
  simp only [annotateLeaf, providerOf_markUnsupported h hc, hasked]

/-- The names of the values of a condition are found exactly if it lists no number that the store
does not take. -/
theorem failure_annotateLeaf_iff (h : a.providers = [provider s l]) :
    (a.annotateLeaf language c).failure = none ↔
      (c.IsOnVariants → ∀ v ∈ c.value.listed, ¬ BeyondStore v) := by
  constructor
  · intro hcompletes hc v hmem hv
    rw [annotateLeaf_of_beyond h hc hmem hv] at hcompletes
    cases hcompletes
  · intro hwithin
    by_cases hc : c.IsOnVariants
    · rw [annotateLeaf_of_within h hc (hwithin hc)]
    · rw [annotateLeaf_of_not_isOnVariants h hc]

theorem failure_annotateLeaf_eq (h : a.providers = [provider s l]) {f : Failure}
    (hf : (a.annotateLeaf language c).failure = some f) : f = .outOfRange := by
  by_cases hc : c.IsOnVariants
  · by_cases hbeyond : ∃ v ∈ c.value.listed, BeyondStore v
    · obtain ⟨v, hmem, hv⟩ := hbeyond
      rw [annotateLeaf_of_beyond h hc hmem hv] at hf
      exact (Option.some.inj hf).symm
    · rw [annotateLeaf_of_within h hc fun v hmem hv => hbeyond ⟨v, hmem, hv⟩] at hf
      cases hf
  · rw [annotateLeaf_of_not_isOnVariants h hc] at hf
    cases hf

theorem showsSelected_annotateLeaf (h : a.providers = [provider s l])
    (hcompletes : (a.annotateLeaf language c).failure = none) :
    c.ShowsSelected s l language (a.annotateLeaf language c).after := by
  intro hc
  rw [annotateLeaf_of_within h hc (failure_annotateLeaf_iff h |>.1 hcompletes hc)]
  exact ⟨_, lookup_putKeyed_self, namesSelected_putOptions s l language c⟩

/-- Enrichment with the values of attributes comes to its end exactly where no condition on these
values lists a number that the store does not take, and where it ends early, it is for such a number.
Where it comes to its end, each of these conditions shows the names of the stored values that it
lists, and nothing for what is no number or the number of no stored value. -/
theorem enrichment_completes_iff (a : Annotator) (s : Store) (l : Localizer)
    (hproviders : a.providers = [provider s l]) (language : Option String) (g : Group) :
    ((a.annotate language g).failure = none ↔
      ∀ c ∈ g.toExpr.leaves, c.IsOnVariants → ∀ v ∈ c.value.listed, ¬ BeyondStore v) ∧
    (∀ f, (a.annotate language g).failure = some f → f = .outOfRange) ∧
    ((a.annotate language g).failure = none →
      List.Forall₂ (Leaf.ShowsSelected s l ((Localizer.given language).getD a.defaultLanguage))
        g.toExpr.leaves (a.annotate language g).after.toExpr.leaves) := by
  refine ⟨?_, ?_, ?_⟩
  · rw [failure_annotate, List.findSome?_eq_none_iff]
    exact forall₂_congr fun c _ => failure_annotateLeaf_iff hproviders
  · intro f hf
    rw [failure_annotate] at hf
    obtain ⟨c, -, hf⟩ := List.exists_of_findSome?_eq_some hf
    exact failure_annotateLeaf_eq hproviders hf
  · intro hcompletes
    rw [leaves_annotate hcompletes, List.forall₂_map_right_iff, List.forall₂_same]
    intro c hc
    rw [failure_annotate, List.findSome?_eq_none_iff] at hcompletes
    exact showsSelected_annotateLeaf hproviders (hcompletes c hc)

/-- A shop with one colour, and a rule set that lists it after a number that is too large. -/
def palette : Store where
  catalog := [⟨3, 0, ⟨some "Colour", .null⟩⟩]
  ruleSets := [⟨1, none, "product_attribute", "and", true, false,
    [⟨10, "variant3", "in", some "9223372036854775808, 5", 0⟩]⟩]
  attributes := [⟨20, 1, 3, none, 0⟩]
  values := [⟨5, 20, 0, ⟨some "red", .null⟩⟩]

def paletteEngine : Engine := .attributes ⟨[], "en"⟩ "en" 10 5

/-- A condition on the colour that lists the one that there is, what is no number, and the number of
no colour. -/
def paletteGroup : Group where
  head := headOf .productAttribute 1 .every false
  parts := [.leaf ⟨10, some (Attribute.descriptorOf ⟨[], "en"⟩ "en" ⟨3, 0, ⟨some "Colour", .null⟩⟩),
    .anyIn, .list [.int 5, .text "old", .int 9223372036854775807], none, []⟩]

theorem paletteGroup_shows_selected :
    ((paletteEngine.annotator palette).annotate none paletteGroup).failure = none ∧
      List.Forall₂ (Leaf.ShowsSelected palette ⟨[], "en"⟩ "en") paletteGroup.toExpr.leaves
        ((paletteEngine.annotator palette).annotate none paletteGroup).after.toExpr.leaves := by
  have hspec := enrichment_completes_iff (paletteEngine.annotator palette) palette ⟨[], "en"⟩ rfl none
    paletteGroup
  have hcompletes : ((paletteEngine.annotator palette).annotate none paletteGroup).failure = none := by
    rw [hspec.1]
    rintro c hc - v hv hbeyond
    have hread : (Value.text "old").toInt = .error .unreadable := by cbv
    simp only [paletteGroup, Group.toExpr, Expr.leaves_group, List.flatMap_cons, Expr.leaves_leaf,
      List.flatMap_nil, List.append_nil, List.mem_singleton] at hc
    subst hc
    simp only [Value.listed, List.mem_cons, List.not_mem_nil, or_false] at hv
    cases hbeyond with
    | infinite negative => simp at hv
    | number h hn =>
      rcases hv with rfl | rfl | rfl
      · cases h
        revert hn
        decide
      · rw [hread] at h
        cases h
      · cases h
        revert hn
        decide
  exact ⟨hcompletes, hspec.2.2 hcompletes⟩

/-- A number that is too large is not passed over. -/
theorem palette_ends_early : ∃ g,
    ((paletteEngine.compiler palette).compile false 1).result = .ok (some g) ∧
      ((paletteEngine.annotator palette).annotate none g).failure = some .outOfRange := by
  have hends : ((paletteEngine.compiler palette).compile false 1).result.map
      (Option.map fun g => ((paletteEngine.annotator palette).annotate none g).failure) =
        .ok (some (some .outOfRange)) := by cbv
  cases hcompiled : ((paletteEngine.compiler palette).compile false 1).result with
  | error f => simp [hcompiled, Except.map] at hends
  | ok found =>
    rw [hcompiled] at hends
    obtain ⟨g, rfl, hfailure⟩ := Option.map_eq_some_iff.1 (Except.ok.inj hends)
    exact ⟨g, rfl, hfailure⟩

end Variants

end Rulebook
