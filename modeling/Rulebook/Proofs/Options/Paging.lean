import Mathlib
import Rulebook.Proofs.Compile.Agreement
import Rulebook.Proofs.Options.Search

/-!
# The pages of the options

The values of a catalog attribute are offered page by page. A page is cut out of one listing, which
does not depend on the size of the pages: the values that the search finds, in display order. So the
pages, read one after another until one says that none follows, put the listing together again.
-/

namespace Rulebook.VariantOptions

open Rulebook.Checked (fitsWord wordLimit)

/-- The value belongs to the catalog attribute, mapped onto whichever product, and the search term
finds its name, if there is a term. -/
def IsOffered (s : Store) (catalogId : Int) (term : Option String) (v : VariantValue) : Prop :=
  (s.attributeOf v).map (·.catalogId) = some catalogId ∧
    ∀ t ∈ term, t ≠ "" → Text.foundBy t (searchedName v) = true

instance {s : Store} {catalogId : Int} {term : Option String} :
    DecidablePred (IsOffered s catalogId term) :=
  fun _ => inferInstanceAs (Decidable (_ ∧ _))

/-- The pages of a size that are read of a listing, one after another until one says that none
follows. -/
structure Partition (read : Int → Result OptionsPage) (size : Int) (listing : List SelectOption)
    (pages : List OptionsPage) : Prop where
  started : pages ≠ []
  inTurn : ∀ (i : Nat) (_ : i < pages.length),
    read i = .ok pages[i] ∧ (pages[i].hasMore = true ↔ i + 1 < pages.length)
  whole : pages.flatMap (·.options) = listing
  full : ∀ (i : Nat) (_ : i + 1 < pages.length), (pages[i].options.length : Int) = size
  /-- After the last page nothing comes, wherever the store can still count the rows before. -/
  beyond : ∀ i : Nat, pages.length ≤ i → i * size < wordLimit → read i = .ok ⟨[], false⟩

section Listing

variable {α : Type} {rows : List α} {size : Int} {pages : List (Page α)}

/-- The page of options that shows a page of rows. -/
def shown (toOption : α → SelectOption) (page : Page α) : OptionsPage :=
  ⟨page.items.map toOption, page.hasNext⟩

/-- Pages of rows, shown as options, are the pages of the options. -/
theorem partition_of_readsPages (toOption : α → SelectOption) (hsize : 1 ≤ size)
    (hfits : size + 1 < wordLimit) (h : ReadsPages (fun i => pageOf i size rows) 0 pages) :
    Partition (fun i => (pageOf i size rows).map (shown toOption)) size (rows.map toOption)
      (pages.map (shown toOption)) := by
  have hread (i : Nat) (hi : i < pages.length) : pageOf i size rows = .ok pages[i] ∧
      (pages[i].hasNext = true ↔ i + 1 < pages.length) := by
    simpa using h.getElem i hi
  constructor
  case started => simp [h.ne_nil]
  case inTurn =>
    intro i hi
    rw [List.length_map] at hi ⊢
    simp [hread i hi, Except.map, shown]
  case whole =>
    have hwhole := h.flatMap_items hsize (Int.le_refl 0)
    rw [rowsFrom_zero] at hwhole
    rw [List.flatMap_map, ← hwhole, List.map_flatMap]
    rfl
  case full =>
    intro i hi
    rw [List.length_map] at hi
    obtain ⟨hpage, hnext⟩ := hread i (by omega)
    obtain ⟨hitems, hmore⟩ := pageOf_eq_ok hsize hpage
    have hlong := hmore.1 (hnext.2 hi)
    rw [List.getElem_map, shown, List.length_map, hitems, List.length_take]
    omega
  case beyond =>
    intro i hi hoffset
    rw [List.length_map] at hi
    obtain ⟨page, hpage⟩ := exists_pageOf_eq_ok rows hsize hfits (Int.natCast_nonneg i) hoffset
    obtain ⟨hitems, hmore⟩ := pageOf_eq_ok hsize hpage
    -- the rows from here on are some of those after the last page, of which there are none
    have hnone : rowsFrom rows size i = [] := by
      have hlast := h.rowsFrom_eq_nil hsize (Int.le_refl 0)
      rw [rowsFrom, List.drop_eq_nil_iff] at hlast ⊢
      have hlater : (0 + pages.length) * size ≤ i * size :=
        Int.mul_le_mul_of_nonneg_right (by omega) (by omega)
      omega
    rw [hnone, List.take_nil] at hitems
    rw [hnone, List.length_nil] at hmore
    have hends : page.hasNext = false := by simpa using hmore
    simp [hpage, Except.map, shown, hitems, hends]

end Listing

theorem isListed_eq_isOffered (s : Store) (catalogId : Int) (term : Option String) :
    s.isListed catalogId term = fun v => decide (IsOffered s catalogId term v) := by
  funext v
  rw [Bool.eq_iff_iff, decide_eq_true_eq, Store.isListed, IsOffered, Bool.and_eq_true]
  refine and_congr ?_ ?_
  · cases s.attributeOf v <;> simp
  · cases term with
    | none => simp
    | some t => by_cases ht : t = "" <;> simp [ht, searchedName]

/-- The pages of the options are the parts of one listing. Whatever their size, the pages that are
read one after another, until one says that none follows, come to an end, and put together they are
the values that are offered, over all products, each once and in display order. Every page but the
last is full, and after the last nothing comes. This takes sizes and numbers of rows that the store
can count. -/
theorem options_are_paged (s : Store) (l : Localizer) (c : Leaf) (term language : Option String)
    {parent : Value} {catalogId : Int} (hparent : parentOf c = some parent)
    (hread : parent.toInt = .ok catalogId) (hid : fitsWord catalogId = true)
    (hcount : ((s.values.filter (IsOffered s catalogId term)).length : Int) ≤ wordLimit) :
    ∃ rows : List VariantValue, rows.Perm (s.values.filter (IsOffered s catalogId term)) ∧
      rows.Pairwise (fun v w => inOrder v.place w.place) ∧
      ∀ size : Int, 1 ≤ size → size + 1 < wordLimit → ∃ pages,
        Partition (fun i => (provider s l).options ⟨.all, c, i, size, term, language⟩) size
          (rows.map (optionOf s l language)) pages := by
  refine ⟨sortByPlace VariantValue.place (s.values.filter (IsOffered s catalogId term)),
    List.mergeSort_perm _ _, sortByPlace_sorted _ _, fun size hsize hfits => ?_⟩
  generalize hrows : sortByPlace VariantValue.place _ = rows
  have hlength : (rows.length : Int) ≤ wordLimit := by
    rwa [← hrows, sortByPlace, List.length_mergeSort]
  have hoptions (i : Int) : (provider s l).options ⟨.all, c, i, size, term, language⟩ =
      (pageOf i size rows).map (shown (optionOf s l language)) := by
    rw [← hrows, ← isListed_eq_isOffered]
    exact allOptions_eq _ hparent hread hid
  simp only [hoptions]
  obtain ⟨pages, hpages⟩ := exists_readsPages hsize hfits hlength
  exact ⟨_, partition_of_readsPages _ hsize hfits hpages⟩

/-- A shop with one colour mapped onto two products, and another attribute. -/
def sharedColours : Store where
  catalog := [⟨3, 0, ⟨some "Colour", .null⟩⟩, ⟨4, 1, ⟨some "Wood", .null⟩⟩]
  ruleSets := []
  attributes := [⟨20, 1, 3, none, 0⟩, ⟨21, 2, 3, none, 0⟩, ⟨22, 2, 4, none, 1⟩]
  values := [⟨7, 21, 1, ⟨some "Blue", .null⟩⟩, ⟨9, 20, 1, ⟨some "Bright red", .null⟩⟩,
    ⟨5, 20, 1, ⟨some "Red", .null⟩⟩, ⟨8, 22, 0, ⟨some "Redwood", .null⟩⟩,
    ⟨6, 21, 0, ⟨some "Dark red", .null⟩⟩]

def colourCondition : Leaf where
  id := 10
  descriptor := some (Attribute.descriptorOf ⟨[], "en"⟩ "en" ⟨3, 0, ⟨some "Colour", .null⟩⟩)
  operator := .anyIn
  value := .list []
  rawValue := none
  notes := []

theorem sharedColours_are_paged :
    parentOf colourCondition = some (.int 3) ∧ (Value.int 3).toInt = .ok 3 ∧
      fitsWord 3 = true ∧
      ((sharedColours.values.filter (IsOffered sharedColours 3 (some "red"))).map (·.id)) =
        [9, 5, 6] ∧
      ∃ rows : List VariantValue, rows.length = 3 ∧ ∃ pages,
        Partition (fun i => (provider sharedColours ⟨[], "en"⟩).options
          ⟨.all, colourCondition, i, 2, some "red", none⟩) 2
          (rows.map (optionOf sharedColours ⟨[], "en"⟩ none)) pages := by
  have hoffered : (sharedColours.values.filter (IsOffered sharedColours 3 (some "red"))).map (·.id) =
      [9, 5, 6] := by decide +kernel
  have hlength : (sharedColours.values.filter (IsOffered sharedColours 3 (some "red"))).length = 3 := by
    rw [← List.length_map (·.id), hoffered]
    rfl
  have hparent : parentOf colourCondition = some (.int 3) := rfl
  have hread : (Value.int 3).toInt = .ok 3 := rfl
  obtain ⟨rows, hperm, -, hpaged⟩ := options_are_paged sharedColours ⟨[], "en"⟩ colourCondition
    (some "red") none hparent hread (by decide) (by rw [hlength]; decide)
  exact ⟨hparent, hread, by decide, hoffered, rows, hperm.length_eq.trans hlength,
    hpaged 2 (by decide) (by decide)⟩

end Rulebook.VariantOptions
