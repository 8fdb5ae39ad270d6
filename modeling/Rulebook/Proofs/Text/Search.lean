import Mathlib
import Rulebook.Text.Pattern

/-!
# What a search term finds

A term becomes a search pattern as it stands, with a wildcard on either side. So a term whose
characters all stand for themselves finds the names that contain it, and no other. Any other term
finds still all names that contain it, but also names that do not: a wildcard in it is met by other
characters, and a NUL ends the pattern.

Names are seen up to their first NUL.
-/

namespace Rulebook.Text

/-- The character that ends a text in the store. -/
def nul : Char := Char.ofNat 0

/-- A name contains a term, with the ASCII letters in either case. -/
def Contains (term name : String) : Prop :=
  term.toList.map asciiLower <:+: name.toList.map asciiLower

instance (term name : String) : Decidable (Contains term name) :=
  inferInstanceAs (Decidable (_ <:+: _))

/-- Every character of the term stands for itself. -/
def IsPlain (term : String) : Prop := ∀ c ∈ term.toList, c ≠ '%' ∧ c ≠ '_' ∧ c ≠ nul

instance (term : String) : Decidable (IsPlain term) := List.decidableBAll _ _

/-! ## Folding letters -/

/-- What is no letter is folded only from itself. -/
theorem asciiLower_eq_iff {c d : Char}
    (hd : d.toNat < 0x41 ∨ 0x5A < d.toNat ∧ d.toNat < 0x61) : asciiLower c = d ↔ c = d := by
  unfold asciiLower
  split
  · next hc =>
    simp only [Bool.and_eq_true, decide_eq_true_eq] at hc
    have hvalid : (c.toNat + 0x20).isValidChar := Or.inl (by omega)
    constructor
    · rintro rfl
      rw [Char.toNat_ofNat, if_pos hvalid] at hd
      omega
    · rintro rfl
      omega
  · exact Iff.rfl

theorem asciiLower_eq_percent_iff {c : Char} : asciiLower c = '%' ↔ c = '%' :=
  asciiLower_eq_iff (.inl (by decide))

theorem asciiLower_eq_underscore_iff {c : Char} : asciiLower c = '_' ↔ c = '_' :=
  asciiLower_eq_iff (.inr (by decide))

theorem asciiLower_eq_nul_iff {c : Char} : asciiLower c = nul ↔ c = nul :=
  asciiLower_eq_iff (.inl (by decide))

theorem searchForm_of_nul_not_mem {s : String} (h : nul ∉ s.toList) :
    searchForm s = s.toList.map asciiLower := by
  have hwhole : s.toList.takeWhile (· ≠ nul) = s.toList := by
    rw [List.takeWhile_eq_self_iff]
    intro c hc
    simpa using fun hnul : c = nul => h (hnul ▸ hc)
  exact congrArg _ hwhole

/-- A name is seen up to its first NUL. -/
theorem searchForm_isPrefix (s : String) : searchForm s <+: s.toList.map asciiLower :=
  (List.takeWhile_prefix _).map asciiLower

/-! ## Patterns -/

theorem anyTail_iff {p : List Char → Bool} {text : List Char} :
    anyTail p text = true ↔ ∃ rest, rest <:+ text ∧ p rest = true := by
  induction text with
  | nil => simp [anyTail]
  | cons c text ih =>
    rw [anyTail, Bool.or_eq_true, ih]
    simp only [List.suffix_cons_iff, or_and_right, exists_or, exists_eq_left]

theorem fits_anyRun_iff {parts : List PatternPart} {text : List Char} :
    fits (.anyRun :: parts) text = true ↔ ∃ rest, rest <:+ text ∧ fits parts rest = true := by
  rw [fits, anyTail_iff]

theorem fits_anyRun (text : List Char) : fits [.anyRun] text = true :=
  fits_anyRun_iff.2 ⟨[], List.nil_suffix, rfl⟩

/-- A character of a pattern is met by a character. -/
def Meets (c d : Char) : Prop := c = '%' ∨ c = '_' ∨ d = c

/-- Characters that meet the first characters of a pattern fit them. -/
theorem fits_append_of_meets {cs ds : List Char} (h : List.Forall₂ Meets cs ds)
    {parts : List PatternPart} {rest : List Char} (hrest : fits parts rest = true) :
    fits (cs.map .ofChar ++ parts) (ds ++ rest) = true := by
  induction h with
  | nil => exact hrest
  | @cons c d cs ds hcd hmore ih =>
    rw [List.map_cons, List.cons_append, List.cons_append]
    by_cases hrun : c = '%'
    · -- the run is that one character
      rw [PatternPart.ofChar, if_pos hrun, fits_anyRun_iff]
      exact ⟨ds ++ rest, List.suffix_cons d _, ih⟩
    · by_cases hone : c = '_'
      · rw [PatternPart.ofChar, if_neg hrun, if_pos hone]
        exact ih
      · obtain rfl : d = c := by simpa [Meets, hrun, hone] using hcd
        rw [PatternPart.ofChar, if_neg hrun, if_neg hone, fits, ih]
        simp

/-- Characters that stand for themselves are fit by themselves only. -/
theorem fits_append_iff_of_exact {cs : List Char} (hcs : ∀ c ∈ cs, c ≠ '%' ∧ c ≠ '_')
    {parts : List PatternPart} {text : List Char} :
    fits (cs.map .ofChar ++ parts) text = true ↔
      ∃ rest, text = cs ++ rest ∧ fits parts rest = true := by
  induction cs generalizing text with
  | nil => simp
  | cons c cs ih =>
    rw [List.forall_mem_cons] at hcs
    rw [List.map_cons, List.cons_append, PatternPart.ofChar, if_neg hcs.1.1, if_neg hcs.1.2]
    cases text with
    | nil => simp [fits]
    | cons d text =>
      rw [fits, Bool.and_eq_true, beq_iff_eq, ih hcs.2]
      simp [and_assoc, ← exists_and_left]

/-! ## Terms -/

variable {term name : String}

theorem searchForm_pattern (term : String) :
    searchForm (String.ofList ('%' :: (term.toList ++ ['%']))) =
      '%' :: ((term.toList ++ ['%']).takeWhile (· ≠ nul)).map asciiLower := by
  have hpercent : asciiLower '%' = '%' := asciiLower_eq_percent_iff.2 rfl
  rw [searchForm, String.toList_ofList, List.takeWhile_cons_of_pos (by decide), List.map_cons,
    hpercent]
  rfl

/-- The pattern of a term without a NUL has a wildcard on either side. -/
theorem foundBy_of_nul_not_mem (h : nul ∉ term.toList) :
    foundBy term name =
      fits (.anyRun :: ((searchForm term).map .ofChar ++ [.anyRun])) (searchForm name) := by
  have hpercent : asciiLower '%' = '%' := asciiLower_eq_percent_iff.2 rfl
  have hwhole : (term.toList ++ ['%']).takeWhile (· ≠ nul) = term.toList ++ ['%'] := by
    rw [List.takeWhile_eq_self_iff]
    intro c hc
    rcases List.mem_append.1 hc with hc | hc
    · simpa using fun hnul : c = nul => h (hnul ▸ hc)
    · rw [List.mem_singleton.1 hc]
      decide
  rw [foundBy, searchForm_pattern, hwhole, searchForm_of_nul_not_mem h, List.map_append,
    List.map_singleton, hpercent, List.map_cons, List.map_append]
  rfl

/-- A NUL in a term ends the pattern, so the wildcard at the end is lost. -/
theorem foundBy_of_nul_mem (h : nul ∈ term.toList) :
    foundBy term name = fits (.anyRun :: (searchForm term).map .ofChar) (searchForm name) := by
  have hcut : (term.toList ++ ['%']).takeWhile (· ≠ nul) = term.toList.takeWhile (· ≠ nul) := by
    rw [List.takeWhile_append, if_neg]
    intro hlength
    have hall := List.takeWhile_eq_self_iff.1 (List.takeWhile_prefix _ |>.eq_of_length hlength)
    simpa using hall nul h
  rw [foundBy, searchForm_pattern, hcut]
  rfl

/-- A name that contains the term is found, whatever the characters of the term stand for. -/
theorem foundBy_of_contains (hname : nul ∉ name.toList) (h : Contains term name) :
    foundBy term name = true := by
  have hterm : nul ∉ term.toList := by
    intro hnul
    have hfolded := h.subset (List.mem_map_of_mem hnul)
    obtain ⟨c, hc, hc'⟩ := List.mem_map.1 hfolded
    rw [asciiLower_eq_nul_iff.2 rfl, asciiLower_eq_nul_iff] at hc'
    exact hname (hc' ▸ hc)
  obtain ⟨before, after, h⟩ := h
  rw [foundBy_of_nul_not_mem hterm, fits_anyRun_iff, searchForm_of_nul_not_mem hname, ← h,
    searchForm_of_nul_not_mem hterm]
  -- the first wildcard takes what stands before the term, and the last one what stands after it
  refine ⟨term.toList.map asciiLower ++ after, ?_, ?_⟩
  · exact ⟨before, by rw [List.append_assoc]⟩
  · exact fits_append_of_meets (List.forall₂_same.2 fun c _ => .inr (.inr rfl)) (fits_anyRun after)

/-- A plain term finds nothing but names that contain it. -/
theorem contains_of_foundBy (hplain : IsPlain term) (h : foundBy term name = true) :
    Contains term name := by
  have hterm : nul ∉ term.toList := fun hnul => (hplain nul hnul).2.2 rfl
  have hexact : ∀ c ∈ term.toList.map asciiLower, c ≠ '%' ∧ c ≠ '_' := by
    rw [List.forall_mem_map]
    intro c hc
    rw [ne_eq, asciiLower_eq_percent_iff, ne_eq, asciiLower_eq_underscore_iff]
    exact ⟨(hplain c hc).1, (hplain c hc).2.1⟩
  rw [foundBy_of_nul_not_mem hterm, fits_anyRun_iff, searchForm_of_nul_not_mem hterm] at h
  obtain ⟨tail, htail, h⟩ := h
  -- the term begins what the first wildcard leaves
  obtain ⟨after, rfl, -⟩ := (fits_append_iff_of_exact hexact).1 h
  have hinfix : term.toList.map asciiLower <:+: searchForm name :=
    (List.prefix_append _ _).isInfix.trans htail.isInfix
  exact hinfix.trans (searchForm_isPrefix name).isInfix

/-! ## Terms that are not plain -/

/-- A character that is no wildcard in the place of each wildcard. -/
def tame (c : Char) : Char := if c = '%' ∨ c = '_' then 'x' else c

/-- The text of a term before its first NUL, without wildcards. -/
def tameName (term : String) : String :=
  String.ofList ((term.toList.takeWhile (· ≠ nul)).map tame)

theorem meets_tame (c : Char) : Meets (asciiLower c) (asciiLower (tame c)) := by
  unfold tame
  split
  · next hc =>
    rcases hc with rfl | rfl
    · exact .inl (asciiLower_eq_percent_iff.2 rfl)
    · exact .inr (.inl (asciiLower_eq_underscore_iff.2 rfl))
  · exact .inr (.inr rfl)

theorem nul_not_mem_tameName (term : String) : nul ∉ (tameName term).toList := by
  rw [tameName, String.toList_ofList, List.mem_map]
  rintro ⟨c, hc, htame⟩
  have hne : c ≠ nul := by simpa using List.mem_takeWhile_imp hc
  unfold tame at htame
  split at htame
  · revert htame
    decide
  · exact hne htame

/-- Wildcards are met by what stands in their place. -/
theorem foundBy_tameName (term : String) : foundBy term (tameName term) = true := by
  have hname : searchForm (tameName term) =
      ((term.toList.takeWhile (· ≠ nul)).map tame).map asciiLower := by
    rw [searchForm_of_nul_not_mem (nul_not_mem_tameName term), tameName, String.toList_ofList]
  have hmeets : List.Forall₂ Meets (searchForm term) (searchForm (tameName term)) := by
    rw [hname, searchForm, List.forall₂_map_left_iff, List.forall₂_map_right_iff,
      List.forall₂_map_right_iff]
    exact List.forall₂_same.2 fun c _ => meets_tame c
  -- with a NUL the name has to end with the pattern, and without one the last wildcard takes nothing
  by_cases hnul : nul ∈ term.toList
  · rw [foundBy_of_nul_mem hnul, fits_anyRun_iff]
    refine ⟨_, List.suffix_rfl, ?_⟩
    simpa using fits_append_of_meets hmeets (show fits [] [] = true from rfl)
  · rw [foundBy_of_nul_not_mem hnul, fits_anyRun_iff]
    refine ⟨_, List.suffix_rfl, ?_⟩
    simpa using fits_append_of_meets hmeets (fits_anyRun [])

/-- The name is no longer than the term, so it could contain only a term equal to it. -/
theorem not_contains_tameName (h : ¬ IsPlain term) : ¬ Contains term (tameName term) := by
  intro hcontains
  rw [Contains, tameName, String.toList_ofList] at hcontains
  have hprefix := List.takeWhile_prefix (fun c => decide (c ≠ nul)) (l := term.toList)
  have hlength := hcontains.length_le
  simp only [List.length_map] at hlength
  have hwhole := hprefix.eq_of_length (Nat.le_antisymm hprefix.length_le hlength)
  rw [hwhole] at hcontains
  have hsame := hcontains.eq_of_length (by simp only [List.length_map])
  rw [List.map_map, List.map_inj_left] at hsame
  apply h
  intro c hc
  refine ⟨?_, ?_, ?_⟩
  · rintro rfl
    exact absurd (hsame '%' hc) (by decide)
  · rintro rfl
    exact absurd (hsame '_' hc) (by decide)
  · simpa using List.takeWhile_eq_self_iff.1 hwhole c hc

/-- A term finds only names that contain it exactly if it is plain. -/
theorem isPlain_iff_forall_contains :
    IsPlain term ↔ ∀ name, foundBy term name = true → Contains term name := by
  constructor
  · intro h name
    exact contains_of_foundBy h
  · intro h
    by_contra hplain
    exact not_contains_tameName hplain (h _ (foundBy_tameName term))

end Rulebook.Text
