import Mathlib
import Rulebook.Store.Query

/-!
# Reading page by page

`ReadsPages` says which pages are read when a listing is read one page after another, until one
says that none follows. No bound occurs in it. A listing whose rows can be counted in the store is
read to its end in this way, and read whole: each row once, in its place, whatever the size of the
pages. The number of pages is the least that the rows fit into, and one where there are none.
-/

namespace Rulebook

open Rulebook.Checked (fitsWord wordLimit)

/-- The pages that are read from an index on. -/
inductive ReadsPages {α : Type} (read : Int → Result (Page α)) : Int → List (Page α) → Prop where
  | last {index : Int} {page : Page α} (hpage : read index = .ok page)
      (hlast : page.hasNext = false) : ReadsPages read index [page]
  | next {index : Int} {page : Page α} {pages : List (Page α)} (hpage : read index = .ok page)
      (hnext : page.hasNext = true) (hrest : ReadsPages read (index + 1) pages) :
      ReadsPages read index (page :: pages)

section Reading

variable {α : Type} {read : Int → Result (Page α)} {index : Int} {pages : List (Page α)}

theorem ReadsPages.exists_index_of_mem (h : ReadsPages read index pages) {page : Page α}
    (hpage : page ∈ pages) : ∃ i, index ≤ i ∧ read i = .ok page := by
  induction h with
  | last hread hlast =>
    obtain rfl := List.mem_singleton.1 hpage
    exact ⟨_, Int.le_refl _, hread⟩
  | next hread hnext hrest ih =>
    rcases List.mem_cons.1 hpage with rfl | hpage
    · exact ⟨_, Int.le_refl _, hread⟩
    · obtain ⟨i, hi, hread'⟩ := ih hpage
      exact ⟨i, by omega, hread'⟩

theorem ReadsPages.ne_nil (h : ReadsPages read index pages) : pages ≠ [] := by
  cases h <;> simp

/-- The pages are read in turn, and just the last one says that none follows. -/
theorem ReadsPages.getElem (h : ReadsPages read index pages) (i : Nat) (hi : i < pages.length) :
    read (index + i) = .ok pages[i] ∧ (pages[i].hasNext = true ↔ i + 1 < pages.length) := by
  induction h generalizing i with
  | last hpage hlast =>
    obtain rfl : i = 0 := Nat.lt_one_iff.1 hi
    simp [hpage, hlast]
  | @next index page pages hpage hnext hrest ih =>
    cases i with
    | zero =>
      have hmore : 0 < pages.length := List.length_pos_iff.2 hrest.ne_nil
      simp [hpage, hnext, hmore]
    | succ i =>
      have hrest := ih i (Nat.lt_of_succ_lt_succ hi)
      rw [show index + 1 + i = index + (i + 1 : Nat) by omega] at hrest
      simpa using hrest

/-- A bound that leaves room for the pages makes no difference. -/
theorem ReadsPages.readPages_eq (h : ReadsPages read index pages) {left : Nat}
    (hleft : pages.length ≤ left) : readPages read left index = .ok pages := by
  induction h generalizing left with
  | last hread hlast =>
    obtain ⟨n, rfl⟩ := Nat.exists_eq_succ_of_ne_zero (Nat.one_le_iff_ne_zero.1 hleft)
    simp only [readPages, hread, bind, Except.bind, hlast, Bool.false_eq_true, if_false]
    rfl
  | next hread hnext hrest ih =>
    rw [List.length_cons] at hleft
    obtain ⟨n, rfl⟩ := Nat.exists_eq_succ_of_ne_zero (show left ≠ 0 by omega)
    simp only [readPages, hread, bind, Except.bind, hnext, if_true, ih (Nat.le_of_succ_le_succ hleft)]
    rfl

theorem exists_read_of_readPages_error {left : Nat} {f : Failure}
    (h : readPages read left index = .error f) : ∃ i, read i = .error f := by
  induction left generalizing index with
  | zero => cases h
  | succ n ih =>
    cases hread : read index with
    | error f' =>
      simp only [readPages, hread, bind, Except.bind] at h
      cases h
      exact ⟨index, hread⟩
    | ok page =>
      simp only [readPages, hread, bind, Except.bind] at h
      split at h
      · cases hrest : readPages read n (index + 1) with
        | error f' =>
          rw [hrest] at h
          cases h
          exact ih hrest
        | ok pages =>
          rw [hrest] at h
          cases h
      · cases h

end Reading

/-! ## Pages of a list of rows -/

section Listing

variable {α : Type} {rows : List α} {size index : Int} {pages : List (Page α)}

/-- The rows from a page on. -/
def rowsFrom (rows : List α) (size index : Int) : List α := rows.drop (index * size).toNat

@[simp] theorem rowsFrom_zero : rowsFrom rows size 0 = rows := by simp [rowsFrom]

theorem rowsFrom_succ (hsize : 1 ≤ size) (hindex : 0 ≤ index) :
    rowsFrom rows size (index + 1) = (rowsFrom rows size index).drop size.toNat := by
  have hprod : 0 ≤ index * size := Int.mul_nonneg hindex (by omega)
  have hplace : ((index + 1) * size).toNat = (index * size).toNat + size.toNat := by
    rw [Int.add_mul, Int.one_mul, Int.toNat_add hprod (by omega)]
  rw [rowsFrom, rowsFrom, List.drop_drop, hplace]

/-- One row more than the page holds has been looked at. -/
theorem pageOf_eq_ok (hsize : 1 ≤ size) {page : Page α} (h : pageOf index size rows = .ok page) :
    page.items = (rowsFrom rows size index).take size.toNat ∧
      (page.hasNext = true ↔ size.toNat < (rowsFrom rows size index).length) := by
  unfold pageOf at h
  split at h
  · cases h
    have hlimit : ¬(size + 1 < 0) := by omega
    have hsize' : 0 ≤ size := by omega
    simp only [pageOfSeen, window, firstRows, if_neg hlimit, if_pos hsize']
    refine ⟨?_, ?_⟩
    · rw [List.take_take, Nat.min_eq_left (by omega)]
      rfl
    · rw [decide_eq_true_eq, List.length_take]
      show _ ↔ size.toNat < (List.drop _ _).length
      omega
  · cases h

theorem pageOf_eq_error {f : Failure} (h : pageOf index size rows = .error f) : f = .outOfRange := by
  unfold pageOf at h
  split at h
  · cases h
  · cases h
    rfl

theorem exists_pageOf_eq_ok (rows : List α) (hsize : 1 ≤ size) (hfits : size + 1 < wordLimit)
    (hindex : 0 ≤ index) (hoffset : index * size < wordLimit) :
    ∃ page, pageOf index size rows = .ok page := by
  have hprod : 0 ≤ index * size := Int.mul_nonneg hindex (by omega)
  have hpositive : 0 < wordLimit := by decide
  have hwords : (fitsWord (index * size) && fitsWord (size + 1)) = true := by
    simp only [fitsWord, Bool.and_eq_true, decide_eq_true_eq]
    omega
  exact ⟨_, if_pos hwords⟩

/-- Each row is read once, and in its place. -/
theorem ReadsPages.flatMap_items (hsize : 1 ≤ size) (hindex : 0 ≤ index)
    (h : ReadsPages (fun i => pageOf i size rows) index pages) :
    pages.flatMap (·.items) = rowsFrom rows size index := by
  induction h with
  | last hpage hlast =>
    -- the last page holds all that is left
    obtain ⟨hitems, hnext⟩ := pageOf_eq_ok hsize hpage
    have hshort := mt hnext.2 (Bool.not_eq_true _ ▸ hlast)
    rw [List.flatMap_singleton, hitems, List.take_of_length_le (by omega)]
  | next hpage hnext hrest ih =>
    obtain ⟨hitems, -⟩ := pageOf_eq_ok hsize hpage
    rw [List.flatMap_cons, hitems, ih (by omega), rowsFrom_succ hsize hindex, List.take_append_drop]

/-- No row is left after the last page. -/
theorem ReadsPages.rowsFrom_eq_nil (hsize : 1 ≤ size) (hindex : 0 ≤ index)
    (h : ReadsPages (fun i => pageOf i size rows) index pages) :
    rowsFrom rows size (index + pages.length) = [] := by
  induction h with
  | last hpage hlast =>
    have hshort := mt (pageOf_eq_ok hsize hpage).2.2 (Bool.not_eq_true _ ▸ hlast)
    rw [List.length_singleton, Nat.cast_one, rowsFrom_succ hsize hindex, List.drop_eq_nil_iff]
    omega
  | next hpage hnext hrest ih =>
    rw [List.length_cons, Nat.cast_succ, Int.add_comm _ 1, ← Int.add_assoc]
    exact ih (by omega)

theorem ReadsPages.length_eq (hsize : 1 ≤ size) (hindex : 0 ≤ index)
    (h : ReadsPages (fun i => pageOf i size rows) index pages) :
    pages.length = max 1 ((rowsFrom rows size index).length ⌈/⌉ size.toNat) := by
  have hpos : 0 < size.toNat := by omega
  induction h with
  | @last index page hpage hlast =>
    obtain ⟨-, hnext⟩ := pageOf_eq_ok hsize hpage
    have hshort := mt hnext.2 (Bool.not_eq_true _ ▸ hlast)
    have hone : (rowsFrom rows size index).length ⌈/⌉ size.toNat ≤ 1 :=
      (ceilDiv_le_iff_le_mul hpos).2 (by omega)
    exact (Nat.max_eq_left hone).symm
  | next hpage hnext hrest ih =>
    -- a page that another follows is full, so one page less is needed for the rest
    have hfull := (pageOf_eq_ok hsize hpage).2.1 hnext
    rw [List.length_cons, ih (by omega), rowsFrom_succ hsize hindex, List.length_drop]
    generalize (rowsFrom rows size _).length = n at hfull
    obtain ⟨m, rfl⟩ := Nat.exists_eq_add_of_lt hfull
    simp only [Nat.ceilDiv_eq_add_pred_div]
    have hrest : size.toNat + m + 1 - size.toNat + size.toNat - 1 = m + size.toNat := by omega
    have hwhole : size.toNat + m + 1 + size.toNat - 1 = m + size.toNat + size.toNat := by omega
    have hleast : 1 ≤ (m + size.toNat) / size.toNat := (Nat.le_div_iff_mul_le hpos).2 (by omega)
    rw [hrest, hwhole, Nat.add_div_right (m + size.toNat) hpos, Nat.max_eq_right hleast,
      Nat.max_eq_right (Nat.le_add_left 1 _)]

/-- A listing no longer than the store can count is read to its end. -/
theorem exists_readsPages_from (hsize : 1 ≤ size) (hfits : size + 1 < wordLimit)
    (hrows : rows.length ≤ wordLimit) (hindex : 0 ≤ index) (hoffset : index * size < wordLimit) :
    ∃ pages, ReadsPages (fun i => pageOf i size rows) index pages := by
  -- the rows that are left become fewer with each page that another follows
  induction hleft : (rowsFrom rows size index).length using Nat.strong_induction_on
    generalizing index with
  | _ n ih =>
    obtain ⟨page, hpage⟩ := exists_pageOf_eq_ok rows hsize hfits hindex hoffset
    cases hnext : page.hasNext with
    | false => exact ⟨_, .last hpage hnext⟩
    | true =>
      have hfull := (pageOf_eq_ok hsize hpage).2.1 hnext
      have hprod : 0 ≤ index * size := Int.mul_nonneg hindex (by omega)
      have hmore : (rowsFrom rows size (index + 1)).length < n := by
        rw [rowsFrom_succ hsize hindex, List.length_drop]
        omega
      have hoffset' : (index + 1) * size < wordLimit := by
        rw [rowsFrom, List.length_drop] at hfull
        rw [Int.add_mul, Int.one_mul]
        omega
      obtain ⟨pages, hrest⟩ := ih _ hmore (by omega) hoffset' rfl
      exact ⟨_, .next hpage hnext hrest⟩

theorem exists_readsPages (hsize : 1 ≤ size) (hfits : size + 1 < wordLimit)
    (hrows : rows.length ≤ wordLimit) :
    ∃ pages, ReadsPages (fun i => pageOf i size rows) 0 pages := by
  have hoffset : 0 * size < wordLimit := by
    rw [Int.zero_mul]
    decide
  exact exists_readsPages_from hsize hfits hrows (Int.le_refl 0) hoffset

theorem mem_of_pageOf (hsize : 1 ≤ size) {page : Page α} {row : α}
    (hpage : pageOf index size rows = .ok page) (hrow : row ∈ page.items) : row ∈ rows := by
  rw [(pageOf_eq_ok hsize hpage).1] at hrow
  exact List.mem_of_mem_drop (List.mem_of_mem_take hrow)

/-- Every row stands on some page. -/
theorem exists_pageOf_of_mem (hsize : 1 ≤ size) (hfits : size + 1 < wordLimit)
    (hrows : rows.length ≤ wordLimit) {row : α} (hrow : row ∈ rows) :
    ∃ index page, 0 ≤ index ∧ pageOf index size rows = .ok page ∧ row ∈ page.items := by
  obtain ⟨pages, hpages⟩ := exists_readsPages hsize hfits hrows
  have hwhole := hpages.flatMap_items hsize (Int.le_refl 0)
  rw [rowsFrom_zero] at hwhole
  rw [← hwhole] at hrow
  obtain ⟨page, hpage, hrow⟩ := List.mem_flatMap.1 hrow
  obtain ⟨index, hindex, hread⟩ := hpages.exists_index_of_mem hpage
  exact ⟨index, page, hindex, hread, hrow⟩

/-- With a page left for each row and one more, the listing is read to its end. -/
theorem readsPages_of_readPages (hsize : 1 ≤ size) (hindex : 0 ≤ index) {left : Nat}
    (hleft : (rowsFrom rows size index).length < left)
    (h : readPages (fun i => pageOf i size rows) left index = .ok pages) :
    ReadsPages (fun i => pageOf i size rows) index pages := by
  induction left generalizing index pages with
  | zero => omega
  | succ n ih =>
    cases hpage : pageOf index size rows with
    | error f =>
      simp only [readPages, hpage, bind, Except.bind] at h
      cases h
    | ok page =>
      simp only [readPages, hpage, bind, Except.bind] at h
      split at h
      · next hnext =>
        have hfull := (pageOf_eq_ok hsize hpage).2.1 hnext
        have hmore : (rowsFrom rows size (index + 1)).length < n := by
          rw [rowsFrom_succ hsize hindex, List.length_drop]
          omega
        cases hrest : readPages (fun i => pageOf i size rows) n (index + 1) with
        | error f =>
          rw [hrest] at h
          cases h
        | ok more =>
          rw [hrest] at h
          cases h
          exact .next hpage hnext (ih (by omega) hmore hrest)
      · next hlast =>
        cases h
        exact .last hpage (Bool.not_eq_true _ ▸ hlast)

end Listing

end Rulebook
