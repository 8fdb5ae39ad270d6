import Mathlib
import Rulebook.Proofs.Attribute.Kinds
import Rulebook.Proofs.Compile.Agreement

/-!
# Loading the kinds of a catalog

The kinds of conditions are loaded by reading the catalog page by page. Whatever the size of the
pages, every attribute contributes one kind, in display order, and no page is read in vain. Among
the kinds, that of an attribute is found by its name in any case, and by nothing else.
-/

namespace Rulebook.Attribute

open Rulebook.Checked (wordLimit)

/-- The kinds of conditions that the attributes of a list contribute. -/
def kindsOf (l : Localizer) (language : String) (rows : List CatalogAttribute) : Collection :=
  ⟨rows.map (descriptorOf l language)⟩

/-- Each kind is found by its name in any case, and no other text finds anything. -/
structure FoundByName (kinds : Collection) (l : Localizer) (language : String)
    (catalog : List CatalogAttribute) : Prop where
  named : ∀ a ∈ catalog, ∀ name, Text.lowercase name = "variant" ++ toString a.id →
    kinds.find? (some name) = some (descriptorOf l language a) ∧
      (descriptorOf l language a).metadata? "parent_id" = some (.int a.id)
  unnamed : ∀ name, (∀ a ∈ catalog, Text.lowercase name ≠ "variant" ++ toString a.id) →
    kinds.find? (some name) = none

/-- The pages of a catalog, none of them read in vain: the catalog is read to its end, in the least
number of pages that it fits into. -/
structure ReadInFull (st : Store) (size : Int) (pages : List (Page CatalogAttribute)) : Prop where
  read : catalogPages st size = .ok pages
  toTheEnd : ReadsPages (fun index => st.listCatalog index size) 0 pages
  count : pages.length = max 1 (st.catalog.length ⌈/⌉ size.toNat)

variable {st : Store} {l : Localizer} {language : String} {size : Int}

theorem foundByName_kindsOf (hids : (st.catalog.map (·.id)).Nodup) :
    FoundByName (kindsOf l language (sortByPlace CatalogAttribute.place st.catalog)) l language
      st.catalog := by
  constructor
  · intro a ha name hname
    have hfind := find?_kinds st.catalog l language name
    rw [kindOf?_eq_some_iff.2 ⟨⟨a, ha, rfl⟩, hname⟩] at hfind
    obtain ⟨a', ha', hid, hfound⟩ := hfind
    -- no other attribute has the number
    obtain rfl : a' = a := List.inj_on_of_nodup_map hids ha' ha hid
    exact ⟨hfound, rfl⟩
  · intro name hname
    have hfind := find?_kinds st.catalog l language name
    have hnone : kindOf? st.catalog name = none := by
      rw [Option.eq_none_iff_forall_ne_some]
      intro k hk
      obtain ⟨⟨a, ha, rfl⟩, hsame⟩ := kindOf?_eq_some_iff.1 hk
      exact hname a ha hsame
    rw [hnone] at hfind
    exact hfind

theorem exists_readInFull (hrows : st.catalog.length ≤ wordLimit) (hsize : 1 ≤ size)
    (hfits : size + 1 < wordLimit) : ∃ pages, ReadInFull st size pages := by
  have hlength : (sortByPlace CatalogAttribute.place st.catalog).length = st.catalog.length :=
    List.length_mergeSort _
  obtain ⟨pages, hpages⟩ := exists_readsPages hsize hfits
    (show ((sortByPlace CatalogAttribute.place st.catalog).length : Int) ≤ wordLimit by rwa [hlength])
  have hcount := hpages.length_eq hsize (Int.le_refl 0)
  rw [rowsFrom_zero, hlength] at hcount
  refine ⟨pages, ⟨?_, hpages, hcount⟩⟩
  -- a page for each row and one more are enough
  apply hpages.readPages_eq
  have hleast : st.catalog.length ⌈/⌉ size.toNat ≤ st.catalog.length := by
    rw [ceilDiv_le_iff_le_mul (show 0 < size.toNat by omega)]
    exact Nat.le_mul_of_pos_left _ (by omega)
  omega

theorem loadDescriptors_eq (hrows : st.catalog.length ≤ wordLimit) (hsize : 1 ≤ size)
    (hfits : size + 1 < wordLimit) :
    loadDescriptors st l language size =
      .ok (kindsOf l language (sortByPlace CatalogAttribute.place st.catalog)).descriptors := by
  obtain ⟨pages, hpages⟩ := exists_readInFull hrows hsize hfits
  have hloaded : loadDescriptors st l language size =
      .ok ((pages.flatMap (·.items)).map (descriptorOf l language)) := by
    rw [loadDescriptors, hpages.read]
    rfl
  rw [hloaded, loadDescriptors_eq_ok hsize hloaded, kindsOf]

/-- Loading loses and duplicates nothing. Each attribute of a catalog, whose numbers are distinct and
which has no more rows than the store can count, contributes one kind, in display order and by
number where the order is the same; this does not depend on the size of the pages. The pages that
are read are the least number that the catalog fits into, and one where it is empty. -/
theorem catalog_loads_in_full (st : Store) (l : Localizer) (language : String)
    (hids : (st.catalog.map (·.id)).Nodup) (hrows : st.catalog.length ≤ wordLimit) :
    ∃ rows : List CatalogAttribute, rows.Perm st.catalog ∧
      (rows.Pairwise fun a b => inOrder a.place b.place) ∧
      FoundByName (kindsOf l language rows) l language st.catalog ∧
      ∀ size : Int, 1 ≤ size → size + 1 < wordLimit →
        loadDescriptors st l language size = .ok (rows.map (descriptorOf l language)) ∧
        ∃ pages, ReadInFull st size pages := by
  refine ⟨sortByPlace CatalogAttribute.place st.catalog, List.mergeSort_perm _ _,
    sortByPlace_sorted CatalogAttribute.place st.catalog, foundByName_kindsOf hids, ?_⟩
  intro size hsize hfits
  exact ⟨loadDescriptors_eq hrows hsize hfits, exists_readInFull hrows hsize hfits⟩

/-- A catalog whose rows stand in another order than their numbers, two of them at one place. -/
def wardrobe : Store where
  catalog := [⟨12, 2, ⟨some "Size", .null⟩⟩, ⟨-3, 1, ⟨some "Colour", .null⟩⟩,
    ⟨7, 1, ⟨some "Cut", .null⟩⟩]
  ruleSets := []
  attributes := []
  values := []

theorem wardrobe_loads_in_full :
    (wardrobe.catalog.map (·.id)).Nodup ∧ wardrobe.catalog.length ≤ wordLimit ∧
      ∃ rows : List CatalogAttribute, rows.Perm wardrobe.catalog ∧
        (rows.Pairwise fun a b => inOrder a.place b.place) ∧
        loadDescriptors wardrobe ⟨[], "en"⟩ "en" 2 =
          .ok (rows.map (descriptorOf ⟨[], "en"⟩ "en")) ∧
        (∃ pages, catalogPages wardrobe 2 = .ok pages ∧ pages.length = 2) ∧
        (kindsOf ⟨[], "en"⟩ "en" rows).find? (some "VARIANT-3") =
          some (descriptorOf ⟨[], "en"⟩ "en" ⟨-3, 1, ⟨some "Colour", .null⟩⟩) := by
  have hids : (wardrobe.catalog.map (·.id)).Nodup := by decide
  have hrows : wardrobe.catalog.length ≤ wordLimit := by decide
  obtain ⟨rows, hperm, hsorted, hfound, hload⟩ :=
    catalog_loads_in_full wardrobe ⟨[], "en"⟩ "en" hids hrows
  obtain ⟨hkinds, pages, hpages⟩ := hload 2 (by decide) (by decide)
  have hname : Text.lowercase "VARIANT-3" = "variant" ++ toString (-3 : Int) := by cbv
  have hcolour := (hfound.named ⟨-3, 1, ⟨some "Colour", .null⟩⟩ (by simp [wardrobe]) _ hname).1
  refine ⟨hids, hrows, rows, hperm, hsorted, hkinds, ⟨pages, hpages.read, ?_⟩, hcolour⟩
  rw [hpages.count]
  rfl

end Rulebook.Attribute
