import Mathlib
import Rulebook.Attribute
import Rulebook.Proofs.Compile.Condition
import Rulebook.Proofs.Store.Paging
import Rulebook.Proofs.Text.Trimming

/-!
# Kinds of attribute conditions

Each attribute of the catalog contributes the kind of conditions that its number names. Whatever the
size of its pages, the catalog is read whole, so a rule type finds the kind of an attribute exactly
if it names it, in any case. No rule type names two attributes.

A condition of such a kind lists numbers, and compares the selected ones with them.
-/

namespace Rulebook

/-! ## Names of kinds -/

namespace Text

/-- A character that lower-casing keeps wherever it stands. -/
def isSmall (c : Char) : Bool := c ≠ capitalSigma && c ≠ dottedCapitalI && smallLetter c = c

/-- Below the accented letters only the capitals of the Latin alphabet have small partners. -/
theorem isSmall_of_code {c : Char}
    (h : c.toNat < 0x41 ∨ 0x5A < c.toNat ∧ c.toNat < 0xC0) : isSmall c = true := by
  have hruns : ∀ r ∈ capitalRuns, r.first = 0x41 ∧ r.last = 0x5A ∨ 0xC0 ≤ r.first := by
    decide +kernel
  have hnone : capitalRuns.find? (fun r => r.first ≤ c.toNat && c.toNat ≤ r.last &&
      (c.toNat - r.first) % r.step == 0) = none := by
    rw [List.find?_eq_none]
    intro r hr
    have hrun := hruns r hr
    simp only [Bool.and_eq_true, decide_eq_true_eq, not_and]
    omega
  have hsmall : smallLetter c = c := by
    unfold smallLetter
    rw [hnone]
  have hsigma : c ≠ capitalSigma := by
    rintro rfl
    revert h
    decide
  have hdotted : c ≠ dottedCapitalI := by
    rintro rfl
    revert h
    decide
  simp [isSmall, hsmall, hsigma, hdotted]

theorem lowerFrom_of_small {cs : List Char} (h : ∀ c ∈ cs, isSmall c = true)
    (before : List Char) : lowerFrom before cs = cs := by
  induction cs generalizing before with
  | nil => rfl
  | cons c rest ih =>
    have hc := h c List.mem_cons_self
    simp only [isSmall, Bool.and_eq_true, decide_eq_true_eq] at hc
    obtain ⟨⟨hsigma, hdotted⟩, hsmall⟩ := hc
    rw [lowerFrom, ih fun c' hc' => h c' (List.mem_cons_of_mem _ hc')]
    simp [lowerChar, hsigma, hdotted, hsmall]

theorem lowercase_of_small {s : String} (h : ∀ c ∈ s.toList, isSmall c = true) :
    lowercase s = s := by
  rw [lowercase, lowerFrom_of_small h, String.ofList_toList]

end Text

namespace Attribute

open Rulebook.Text

/-- The name of the kind that the catalog attribute of a number contributes. -/
def kindName (catalogId : Int) : String := "variant" ++ toString catalogId

theorem isSmall_of_mem_toString {k : Int} {c : Char} (h : c ∈ (toString k).toList) :
    isSmall c = true := by
  -- digits and the minus sign stand before all letters
  have hdigit : ∀ n : Nat, c ∈ n.repr.toList → c.toNat < 0x41 := by
    intro n hn
    have hc : c.isDigit = true := by
      rw [Nat.toList_repr] at hn
      exact Nat.isDigit_of_mem_toDigits (by decide) (by decide) hn
    simp only [Char.isDigit, Bool.and_eq_true, decide_eq_true_eq] at hc
    have := hc.2
    rw [UInt32.le_iff_toNat_le] at this
    exact Nat.lt_of_le_of_lt this (by decide)
  apply isSmall_of_code
  left
  cases k with
  | ofNat n => exact hdigit n h
  | negSucc n =>
    change c ∈ ("-" ++ (n + 1).repr).toList at h
    rw [String.toList_append, List.mem_append] at h
    rcases h with h | h
    · obtain rfl : c = '-' := by simpa using h
      decide
    · exact hdigit _ h

theorem lowercase_kindName (k : Int) : lowercase (kindName k) = kindName k := by
  apply lowercase_of_small
  intro c hc
  rw [kindName, String.toList_append, List.mem_append] at hc
  rcases hc with hc | hc
  · have hall : ∀ c ∈ "variant".toList, 0x5A < c.toNat ∧ c.toNat < 0xC0 := by simp
    exact isSmall_of_code (.inr (hall c hc))
  · exact isSmall_of_mem_toString hc

/-- The names of kinds are in lower case already. -/
theorem sameName_kindName_iff {k : Int} {name : String} :
    Collection.sameName (kindName k) name = true ↔ lowercase name = kindName k := by
  rw [Collection.sameName, lowercase_kindName, beq_iff_eq, eq_comm]

/-- No rule type names two attributes. -/
theorem eq_of_sameName_kindName {j k : Int} {name : String}
    (hj : Collection.sameName (kindName j) name = true)
    (hk : Collection.sameName (kindName k) name = true) : j = k := by
  have hsame : kindName j = kindName k :=
    (sameName_kindName_iff.1 hj).symm.trans (sameName_kindName_iff.1 hk)
  exact Int.repr_injective (String.append_right_inj "variant" |>.1 hsame)

theorem ne_empty_of_sameName_kindName {k : Int} {name : String}
    (h : Collection.sameName (kindName k) name = true) : name.isEmpty = false := by
  by_contra hempty
  obtain rfl : name = "" := by simpa using hempty
  rw [Collection.sameName, lowercase_kindName, beq_iff_eq] at h
  have hlength := congrArg String.length h
  simp [kindName, lowercase, lowerFrom] at hlength

/-! ## Reading the catalog -/

section Catalog

variable {st : Store} {l : Localizer} {language : String} {size : Int}

theorem readsPages_of_catalogPages (hsize : 1 ≤ size) {pages : List (Page CatalogAttribute)}
    (h : catalogPages st size = .ok pages) :
    ReadsPages (fun index => st.listCatalog index size) 0 pages := by
  have hleft : (rowsFrom (sortByPlace CatalogAttribute.place st.catalog) size 0).length <
      st.catalog.length + 1 := by
    rw [rowsFrom_zero, sortByPlace, List.length_mergeSort]
    omega
  exact readsPages_of_readPages hsize (Int.le_refl 0) hleft h

theorem loadDescriptors_eq_ok (hsize : 1 ≤ size) {kinds : List Descriptor}
    (h : loadDescriptors st l language size = .ok kinds) :
    kinds = (sortByPlace CatalogAttribute.place st.catalog).map (descriptorOf l language) := by
  obtain ⟨pages, hpages, h⟩ := Result.bind_eq_ok_iff.1 h
  have hwhole := (readsPages_of_catalogPages hsize hpages).flatMap_items hsize (Int.le_refl 0)
  cases h
  rw [hwhole, rowsFrom_zero]

/-- The catalog cannot be read only where a page does not fit the store. -/
theorem loadDescriptors_eq_error {f : Failure}
    (h : loadDescriptors st l language size = .error f) : f = .outOfRange := by
  rcases Result.bind_eq_error_iff.1 h with h | ⟨pages, -, h⟩
  · obtain ⟨index, hpage⟩ := exists_read_of_readPages_error h
    exact pageOf_eq_error hpage
  · cases h

end Catalog

/-! ## Finding a kind -/

/-- The catalog attribute that a rule type names. -/
def kindOf? (catalog : List CatalogAttribute) (ruleType : String) : Option Int :=
  (catalog.map (·.id)).find? fun k => Collection.sameName (kindName k) ruleType

theorem kindOf?_eq_some_iff {catalog : List CatalogAttribute} {ruleType : String} {k : Int} :
    kindOf? catalog ruleType = some k ↔
      (∃ a ∈ catalog, a.id = k) ∧ lowercase ruleType = kindName k := by
  constructor
  · intro h
    have hmem : k ∈ catalog.map (·.id) := List.mem_of_find?_eq_some h
    exact ⟨List.mem_map.1 hmem, sameName_kindName_iff.1 (by simpa using List.find?_some h)⟩
  · rintro ⟨hmem, hname⟩
    have hk := sameName_kindName_iff.2 hname
    have hsome : (kindOf? catalog ruleType).isSome = true :=
      List.find?_isSome.2 ⟨k, List.mem_map.2 hmem, hk⟩
    obtain ⟨j, hj⟩ := Option.isSome_iff_exists.1 hsome
    -- whichever is found bears the same name
    have hname' : Collection.sameName (kindName j) ruleType = true := by
      simpa using List.find?_some hj
    rw [hj, eq_of_sameName_kindName hname' hk]

theorem name_descriptorOf (l : Localizer) (language : String) (a : CatalogAttribute) :
    (descriptorOf l language a).name = kindName a.id := rfl

/-- The kinds of the catalog are found by the names of its attributes. -/
theorem find?_kinds (catalog : List CatalogAttribute) (l : Localizer) (language ruleType : String) :
    match kindOf? catalog ruleType with
    | none => Collection.find? ⟨(sortByPlace CatalogAttribute.place catalog).map
        (descriptorOf l language)⟩ (some ruleType) = none
    | some k => ∃ a ∈ catalog, a.id = k ∧ Collection.find? ⟨(sortByPlace CatalogAttribute.place catalog).map
        (descriptorOf l language)⟩ (some ruleType) = some (descriptorOf l language a) := by
  have hmem : ∀ a, a ∈ sortByPlace CatalogAttribute.place catalog ↔ a ∈ catalog :=
    fun a => List.mem_mergeSort
  simp only [Collection.find?]
  cases hkind : kindOf? catalog ruleType with
  | none =>
    -- every kind is that of some attribute
    simp only [ite_eq_left_iff, List.find?_eq_none, List.mem_reverse, List.mem_map]
    rintro - d ⟨a, ha, rfl⟩
    have hnone := List.find?_eq_none.1 hkind
    exact hnone a.id (List.mem_map_of_mem ((hmem a).1 ha))
  | some k =>
    unfold kindOf? at hkind
    have hk := List.find?_some hkind
    obtain ⟨a, ha, rfl⟩ := List.mem_map.1 (List.mem_of_find?_eq_some hkind)
    rw [if_neg (by simp [ne_empty_of_sameName_kindName hk])]
    -- some kind has the name, and the one that is found is of the same number
    cases hfound : ((sortByPlace CatalogAttribute.place catalog).map
        (descriptorOf l language)).reverse.find? fun d => Collection.sameName d.name ruleType with
    | none =>
      have hnone := List.find?_eq_none.1 hfound (descriptorOf l language a)
        (List.mem_reverse.2 (List.mem_map_of_mem ((hmem a).2 ha)))
      exact absurd hk hnone
    | some d =>
      obtain ⟨a', hmem', rfl⟩ :=
        List.mem_map.1 (List.mem_reverse.1 (List.mem_of_find?_eq_some hfound))
      have ha' := List.find?_some hfound
      rw [name_descriptorOf] at ha'
      exact ⟨a', (hmem a').1 hmem', eq_of_sameName_kindName ha' hk, rfl⟩

/-! ## Lists of numbers -/

/-- The numbers that a stored text lists: none if it is missing. -/
def idsOf? : Option String → Option (List Int)
  | none => some []
  | some raw => (ValueKind.listItems raw).mapM Number.readInt?

theorem toOption_readSingle_of_mem {raw item : String} (h : item ∈ ValueKind.listItems raw) :
    (ValueKind.int.readSingle item).toOption = (Number.readInt? item).map .int := by
  unfold ValueKind.listItems at h
  obtain ⟨part, -, rfl⟩ := List.mem_map.1 (List.mem_filter.1 h).1
  -- items are trimmed when they are taken apart, and once more when they are read
  have hstrip : strip (String.ofList (trimList isBlank part)) =
      String.ofList (trimList isBlank part) := by
    rw [strip, String.toList_ofList, trimList_trimList]
  simp only [ValueKind.readSingle, hstrip]
  cases Number.readInt? (String.ofList (trimList isBlank part)) <;> rfl

theorem toOption_mapM {α β γ ε : Type} {f : α → Except ε β} {g : α → Option γ} {wrap : γ → β}
    {xs : List α} (h : ∀ x ∈ xs, (f x).toOption = (g x).map wrap) :
    (xs.mapM f).toOption = (xs.mapM g).map (·.map wrap) := by
  induction xs with
  | nil => rfl
  | cons x rest ih =>
    have hx := h x List.mem_cons_self
    have hrest := ih fun x' hx' => h x' (List.mem_cons_of_mem _ hx')
    rw [List.mapM_cons, List.mapM_cons]
    cases hf : f x <;> cases hg : g x <;> rw [hf, hg] at hx <;> cases hx
    · rfl
    · cases hfs : rest.mapM f <;> cases hgs : rest.mapM g <;> rw [hfs, hgs] at hrest <;> cases hrest
      · rfl
      · rfl

/-- A condition on an attribute is read as the numbers that its text lists. -/
theorem toOption_convert_intArray (raw : Option String) :
    (ValueKind.intArray.convert raw).toOption =
      (idsOf? raw).map fun ids => .list (ids.map .int) := by
  cases raw with
  | none => rfl
  | some raw =>
    have hitems : ((ValueKind.listItems raw).mapM ValueKind.int.readSingle).toOption =
        ((ValueKind.listItems raw).mapM Number.readInt?).map (·.map Value.int) :=
      toOption_mapM fun item => toOption_readSingle_of_mem
    show (((ValueKind.listItems raw).mapM ValueKind.int.readSingle) >>= _).toOption =
      ((ValueKind.listItems raw).mapM Number.readInt?).map _
    cases hread : (ValueKind.listItems raw).mapM ValueKind.int.readSingle <;>
      cases hids : (ValueKind.listItems raw).mapM Number.readInt? <;>
      rw [hread, hids] at hitems <;> cases hitems
    · rfl
    · rfl

/-- How an operator for lists compares selected numbers with listed ones; no other operator compares
them. -/
def compares? : Operator → Option (List Int → List Int → Bool)
  | .anyIn => some fun selected ids => selected.any fun n => ids.contains n
  | .noneIn => some fun selected ids => !selected.any fun n => ids.contains n
  | .allIn => some fun selected ids => ids.all fun n => selected.contains n
  | .notAllIn => some fun selected ids => !ids.all fun n => selected.contains n
  | _ => none

theorem isAmong_map_int (n : Int) (ids : List Int) :
    (Value.int n).isAmong (ids.map .int) = ids.contains n := by
  induction ids with
  | nil => rfl
  | cons m rest ih =>
    rw [List.contains_cons, ← ih]
    simp [Value.isAmong, Value.same, Value.identical, Value.eq]

theorem holds_of_compares {o : Operator} {compare : List Int → List Int → Bool}
    (h : compares? o = some compare) (selected ids : List Int) :
    o.holds (.list (selected.map .int)) (.list (ids.map .int)) = compare selected ids := by
  cases o <;> cases h <;>
    simp only [Operator.holds, Operator.anyListed, Operator.allListed, Value.listed, List.any_map,
      List.all_map, Function.comp_def, isAmong_map_int]

end Attribute

end Rulebook
