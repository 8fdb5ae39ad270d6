import Mathlib
import Rulebook.Attribute
import Rulebook.Proofs.Compile.Step
import Rulebook.Proofs.Store.Paging
import Rulebook.Proofs.Text.Search

/-!
# Searching for options

The values of a catalog attribute are searched by their names, page by page. Over all pages, the
values that are offered are those that the term finds. So a value whose name contains the term is
offered, and for a plain term nothing else is. A term that is not plain offers, in some shop, a value
whose name does not contain it.
-/

namespace Rulebook.VariantOptions

open Rulebook.Text
open Rulebook.Checked (fitsWord wordLimit)

/-- The name that a value is searched by. -/
def searchedName (v : VariantValue) : String := v.names.name.getD ""

theorem allOptions_eq {s : Store} {l : Localizer} (request : OptionsRequest) {parent : Value}
    {catalogId : Int} (hparent : parentOf request.condition = some parent)
    (hread : parent.toInt = .ok catalogId) (hid : fitsWord catalogId = true) :
    allOptions s l request =
      (pageOf request.pageIndex request.pageSize (sortByPlace VariantValue.place
        (s.values.filter (s.isListed catalogId request.searchTerm)))).map fun page =>
          ⟨page.items.map (optionOf s l request.language), page.hasNext⟩ := by
  simp only [allOptions, hparent, hread, bind, Except.bind, Store.listValues, hid, if_true]
  cases pageOf request.pageIndex request.pageSize _ <;> rfl

/-- A search among the values of a catalog attribute: the condition that is edited, and how the pages
are read. The pages are of a size that the store takes, and there are no more values than it can
count. -/
structure Search where
  store : Store
  localizer : Localizer
  condition : Leaf
  language : Option String
  size : Int
  catalogId : Int
  asked : ∃ parent, parentOf condition = some parent ∧ parent.toInt = .ok catalogId
  number : fitsWord catalogId = true
  nonempty : 1 ≤ size
  fits : size + 1 < wordLimit
  countable : store.values.length ≤ wordLimit

namespace Search

/-- The request for a page. -/
def request (q : Search) (term : String) (index : Int) : OptionsRequest :=
  ⟨.all, q.condition, index, q.size, some term, q.language⟩

/-- Some page offers the option. -/
def Offers (q : Search) (term : String) (o : SelectOption) : Prop :=
  ∃ index page, 0 ≤ index ∧
    (provider q.store q.localizer).options (q.request term index) = .ok page ∧ o ∈ page.options

/-- The value is one of the catalog attribute, mapped onto whichever product. -/
structure Belongs (q : Search) (v : VariantValue) : Prop where
  stored : v ∈ q.store.values
  mapped : ∃ a, q.store.attributeOf v = some a ∧ a.catalogId = q.catalogId

/-- The option of a value. -/
def option (q : Search) (v : VariantValue) : SelectOption :=
  optionOf q.store q.localizer q.language v

/-- Every value whose name contains the term is offered, if it is seen to its end. -/
def FindsAll (q : Search) (term : String) : Prop :=
  ∀ v, q.Belongs v → Contains term (searchedName v) → nul ∉ (searchedName v).toList →
    q.Offers term (q.option v)

/-- Only values whose names contain the term are offered. -/
def FindsOnly (q : Search) (term : String) : Prop :=
  ∀ o, q.Offers term o → ∃ v, q.Belongs v ∧ Contains term (searchedName v) ∧ o = q.option v

variable {q : Search} {term : String}

/-- The values that are listed, in display order. -/
def listed (q : Search) (term : String) : List VariantValue :=
  sortByPlace VariantValue.place
    (q.store.values.filter (q.store.isListed q.catalogId (some term)))

theorem mem_listed (hterm : term ≠ "") {v : VariantValue} :
    v ∈ q.listed term ↔ q.Belongs v ∧ foundBy term (searchedName v) = true := by
  have hsearch : (some term).filter (fun t => !t.isEmpty) = some term := by simp [hterm]
  have hlisted : q.store.isListed q.catalogId (some term) v = true ↔
      (∃ a, q.store.attributeOf v = some a ∧ a.catalogId = q.catalogId) ∧
        foundBy term (searchedName v) = true := by
    rw [Store.isListed, hsearch]
    simp [searchedName, Option.any_eq_true]
  rw [listed, sortByPlace, List.mem_mergeSort, List.mem_filter, hlisted, ← and_assoc]
  exact and_congr_left' ⟨fun h => ⟨h.1, h.2⟩, fun h => ⟨h.1, h.2⟩⟩

theorem options_eq (q : Search) (term : String) (index : Int) :
    (provider q.store q.localizer).options (q.request term index) =
      (pageOf index q.size (q.listed term)).map fun page =>
        ⟨page.items.map q.option, page.hasNext⟩ := by
  obtain ⟨parent, hparent, hread⟩ := q.asked
  exact allOptions_eq (q.request term index) hparent hread q.number

/-- Over all pages, what is offered are the values that the term finds. -/
theorem offers_iff (hterm : term ≠ "") {o : SelectOption} :
    q.Offers term o ↔
      ∃ v, q.Belongs v ∧ foundBy term (searchedName v) = true ∧ o = q.option v := by
  constructor
  · rintro ⟨index, page, -, hpage, ho⟩
    rw [options_eq] at hpage
    cases hrows : pageOf index q.size (q.listed term) with
    | error f => simp [hrows, Except.map] at hpage
    | ok rows =>
      rw [hrows] at hpage
      cases hpage
      obtain ⟨v, hv, rfl⟩ := List.mem_map.1 ho
      obtain ⟨hbelongs, hfound⟩ := (mem_listed hterm).1 (mem_of_pageOf q.nonempty hrows hv)
      exact ⟨v, hbelongs, hfound, rfl⟩
  · rintro ⟨v, hbelongs, hfound, rfl⟩
    have hcount : ((q.listed term).length : Int) ≤ wordLimit := by
      have hfewer : (q.listed term).length ≤ q.store.values.length := by
        rw [listed, sortByPlace, List.length_mergeSort]
        exact List.length_filter_le _ _
      have hcountable := q.countable
      omega
    obtain ⟨index, page, hindex, hpage, hv⟩ := exists_pageOf_of_mem q.nonempty q.fits hcount
      ((mem_listed hterm).2 ⟨hbelongs, hfound⟩)
    refine ⟨index, ⟨page.items.map q.option, page.hasNext⟩, hindex, ?_, List.mem_map_of_mem hv⟩
    rw [options_eq, hpage]
    rfl

end Search

/-- A shop with one value, and a search in it. -/
def searchAmong (name : String) : Search where
  store := {
    catalog := [⟨3, 0, ⟨some "Colour", .null⟩⟩]
    ruleSets := []
    attributes := [⟨20, 7, 3, none, 0⟩]
    values := [⟨5, 20, 0, ⟨some name, .null⟩⟩] }
  localizer := ⟨[], "en"⟩
  condition := ⟨10, some (Attribute.descriptorOf ⟨[], "en"⟩ "en" ⟨3, 0, ⟨some "Colour", .null⟩⟩),
    .anyIn, .list [], none, []⟩
  language := none
  size := 100
  catalogId := 3
  asked := ⟨.int 3, rfl, rfl⟩
  number := by decide
  nonempty := by decide
  fits := by decide
  countable := (by decide : (1 : Int) ≤ wordLimit)

theorem belongs_searchAmong_iff {name : String} {v : VariantValue} :
    (searchAmong name).Belongs v ↔ v = ⟨5, 20, 0, ⟨some name, .null⟩⟩ := by
  constructor
  · intro h
    exact List.mem_singleton.1 h.stored
  · rintro rfl
    exact ⟨List.mem_singleton.2 rfl, _, rfl, rfl⟩

/-- Searching for options offers every value of the catalog attribute whose name contains the term.
That it offers no other value holds for the plain terms, and only for these: a wildcard or a NUL in
the term is not taken for itself. -/
theorem search_is_literal_iff (term : String) (hterm : term ≠ "") :
    (∀ q : Search, q.FindsAll term) ∧ ((∀ q : Search, q.FindsOnly term) ↔ IsPlain term) := by
  refine ⟨?_, ?_, ?_⟩
  · intro q v hbelongs hcontains hwhole
    exact (Search.offers_iff hterm).2 ⟨v, hbelongs, foundBy_of_contains hwhole hcontains, rfl⟩
  · -- in a shop with just one value, that value is offered whatever its name, if it is found
    intro hfinds
    rw [isPlain_iff_forall_contains]
    intro name hfound
    obtain ⟨v, hbelongs, hcontains, -⟩ := hfinds (searchAmong name) _
      ((Search.offers_iff hterm).2 ⟨_, belongs_searchAmong_iff.2 rfl, hfound, rfl⟩)
    obtain rfl := belongs_searchAmong_iff.1 hbelongs
    exact hcontains
  · intro hplain q o ho
    obtain ⟨v, hbelongs, hfound, rfl⟩ := (Search.offers_iff hterm).1 ho
    exact ⟨v, hbelongs, contains_of_foundBy hplain hfound, rfl⟩

theorem search_is_literal_for_letters :
    (searchAmong "Light blue").Offers "BL"
        ((searchAmong "Light blue").option ⟨5, 20, 0, ⟨some "Light blue", .null⟩⟩) ∧
      (∀ q : Search, q.FindsOnly "BL") := by
  obtain ⟨hall, honly⟩ := search_is_literal_iff "BL" (by decide)
  exact ⟨hall (searchAmong "Light blue") _ (belongs_searchAmong_iff.2 rfl) (by decide +kernel)
    (by decide +kernel), honly.2 (by decide +kernel)⟩

/-- A value is offered for a wildcard that its name does not contain. -/
theorem underscore_finds_red : ∃ page,
    (provider (searchAmong "red").store (searchAmong "red").localizer).options
        ((searchAmong "red").request "_" 0) = .ok page ∧
      page.options.map (·.text) = ["red"] ∧ ¬ Contains "_" "red" :=
  ⟨⟨[⟨"5", "red", some "Colour"⟩], false⟩, by cbv, rfl, by decide +kernel⟩

end Rulebook.VariantOptions
