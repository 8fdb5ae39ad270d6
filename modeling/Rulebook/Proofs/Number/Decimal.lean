import Mathlib
import Rulebook.Validation.Scalars
import Rulebook.Proofs.Text.Trimming

/-!
# Decimal texts of whole numbers

The text of a whole number is a minus sign, if the number is negative, and its decimal digits. What
is read from such a text is the number itself; only a text of more than `digitLimit` digits is not
read at all. The other way round, a number that is read from any text has no more digits than that.
-/

namespace Rulebook.Number

open Rulebook.Text

/-- The decimal digits of a number, the leading one first. -/
def digitsOf (n : Nat) : List Char := Nat.toDigits 10 n

/-- A number with no more digits than a text may have that it is read from. -/
def IsShort (n : Int) : Prop := (digitsOf n.natAbs).length ≤ digitLimit

/-- The value of an ASCII digit. -/
def asciiValue (c : Char) : Nat := c.toNat - 0x30

theorem toList_toString_int (n : Int) :
    (toString n).toList = if n < 0 then '-' :: digitsOf n.natAbs else digitsOf n.natAbs := by
  cases n with
  | ofNat n =>
    rw [if_neg (by simp)]
    exact Nat.toList_repr
  | negSucc n =>
    rw [if_pos (Int.negSucc_lt_zero n)]
    show ("-" ++ (n + 1).repr).toList = _
    rw [String.toList_append, Nat.toList_repr]
    rfl

theorem digitsOf_ne_nil (n : Nat) : digitsOf n ≠ [] := Nat.toDigits_ne_nil

/-! ## Digits -/

theorem isAscii_of_mem_digitsOf {n : Nat} {c : Char} (h : c ∈ digitsOf n) :
    0x30 ≤ c.toNat ∧ c.toNat ≤ 0x39 := by
  have hdigit : c.isDigit = true := Nat.isDigit_of_mem_toDigits (by decide) (by decide) h
  simp only [Char.isDigit, Bool.and_eq_true, decide_eq_true_eq] at hdigit
  obtain ⟨hlow, hhigh⟩ := hdigit
  exact ⟨UInt32.le_iff_toNat_le.1 hlow, UInt32.le_iff_toNat_le.1 hhigh⟩

theorem digitValue?_of_ascii {c : Char} (h : 0x30 ≤ c.toNat ∧ c.toNat ≤ 0x39) :
    digitValue? c = some (asciiValue c) := by
  -- the run of these digits is the first of the table
  have hfirst : zeroDigits.find? (fun z => z ≤ c.toNat && c.toNat < z + 10) = some 0x30 := by
    rw [zeroDigits, List.find?_cons_of_pos]
    simp only [Bool.and_eq_true, decide_eq_true_eq]
    omega
  rw [digitValue?, hfirst]
  rfl

theorem ofDigits_digitsOf (n : Nat) : ofDigits ((digitsOf n).map asciiValue) = n := by
  have hfold : ∀ (cs : List Char) (init : Nat),
      (cs.map asciiValue).foldl (fun n d => 10 * n + d) init = Nat.ofDigitChars 10 cs init := by
    intro cs init
    rw [Nat.ofDigitChars_eq_foldl, List.foldl_map]
    rfl
  rw [ofDigits, hfold]
  exact Nat.ofDigitChars_ten_toDigits

theorem ofDigits_lt {digits : List Nat} (h : ∀ d ∈ digits, d < 10) :
    ofDigits digits < 10 ^ digits.length := by
  have hfold : ∀ (digits : List Nat) (init : Nat), (∀ d ∈ digits, d < 10) →
      digits.foldl (fun n d => 10 * n + d) init < (init + 1) * 10 ^ digits.length := by
    intro digits
    induction digits with
    | nil => simp
    | cons d rest ih =>
      intro init h
      have hd : d < 10 := h d List.mem_cons_self
      have hrest := ih (10 * init + d) fun d' hd' => h d' (List.mem_cons_of_mem _ hd')
      rw [List.foldl_cons, List.length_cons, Nat.pow_succ']
      calc rest.foldl (fun n d => 10 * n + d) (10 * init + d)
          < (10 * init + d + 1) * 10 ^ rest.length := hrest
        _ ≤ (init + 1) * 10 * 10 ^ rest.length := Nat.mul_le_mul_right _ (by omega)
        _ = (init + 1) * (10 * 10 ^ rest.length) := Nat.mul_assoc ..
  simpa [ofDigits] using hfold digits 0 h

/-- Only zero is written with a zero in front. -/
theorem head_digitsOf_ne_zero {n : Nat} {c : Char} {rest : List Char} (hn : n ≠ 0)
    (h : digitsOf n = c :: rest) : c ≠ '0' := by
  rintro rfl
  have hvalue : ofDigits (rest.map asciiValue) = n := by
    have hwhole := ofDigits_digitsOf n
    rw [h] at hwhole
    exact hwhole
  cases rest with
  | nil => exact hn hvalue.symm
  | cons d rest =>
    -- without the zero the number would have fewer digits
    have hlt : n < 10 ^ (d :: rest).length := by
      have hbound := @ofDigits_lt ((d :: rest).map asciiValue) fun a ha => by
        obtain ⟨c, hc, rfl⟩ := List.mem_map.1 ha
        have := (isAscii_of_mem_digitsOf (n := n) (h ▸ List.mem_cons_of_mem _ hc)).2
        simp only [asciiValue]
        omega
      rwa [hvalue, List.length_map] at hbound
    have hlength := (Nat.length_toDigits_le_iff (b := 10) (by decide) (by simp)).2 hlt
    rw [show Nat.toDigits 10 n = '0' :: d :: rest from h] at hlength
    simp at hlength

/-! ## Reading -/

theorem groupedDigits?_of_ascii {cs : List Char} (hne : cs ≠ [])
    (h : ∀ c ∈ cs, 0x30 ≤ c.toNat ∧ c.toNat ≤ 0x39) :
    groupedDigits? cs = some (cs.map asciiValue) := by
  induction cs with
  | nil => exact absurd rfl hne
  | cons c rest ih =>
    have hc := digitValue?_of_ascii (h c List.mem_cons_self)
    cases rest with
    | nil => simp [groupedDigits?, hc]
    | cons c' rest =>
      have hrest := ih (List.cons_ne_nil _ _) fun d hd => h d (List.mem_cons_of_mem _ hd)
      -- no underscore stands among the digits
      have hne' : c' ≠ '_' := by
        rintro rfl
        exact absurd (h '_' (by simp)).2 (by decide)
      rw [groupedDigits?, hc, hrest]
      · rfl
      · exact List.cons_ne_nil _ _
      · intro rest' h'
        exact hne' (List.cons.inj h').1

theorem isBlank_of_visible {c : Char} (h : 0x21 ≤ c.toNat ∧ c.toNat ≤ 0x7E) : isBlank c = false := by
  simp only [isBlank, inRanges, blankRanges, List.any_cons, List.any_nil, Bool.or_false,
    Bool.or_eq_false_iff, Bool.and_eq_false_iff, decide_eq_false_iff_not]
  omega

theorem splitSign_digitsOf (n : Nat) : splitSign (digitsOf n) = (false, digitsOf n) := by
  cases hdigits : digitsOf n with
  | nil => rfl
  | cons c rest =>
    have hc : 0x30 ≤ c.toNat := (isAscii_of_mem_digitsOf (n := n) (by simp [hdigits])).1
    have hminus : c ≠ '-' := by rintro rfl; exact absurd hc (by decide)
    have hplus : c ≠ '+' := by rintro rfl; exact absurd hc (by decide)
    unfold splitSign
    split <;> simp_all

theorem groupedDigits?_digitsOf (n : Nat) :
    groupedDigits? (digitsOf n) = some ((digitsOf n).map asciiValue) :=
  groupedDigits?_of_ascii (digitsOf_ne_nil n) fun _ hc => isAscii_of_mem_digitsOf hc

theorem minus_or_digit_of_mem_toString {n : Int} {c : Char} (h : c ∈ (toString n).toList) :
    c = '-' ∨ 0x30 ≤ c.toNat ∧ c.toNat ≤ 0x39 := by
  rw [toList_toString_int] at h
  split at h
  · rcases List.mem_cons.1 h with rfl | h
    · exact .inl rfl
    · exact .inr (isAscii_of_mem_digitsOf h)
  · exact .inr (isAscii_of_mem_digitsOf h)

theorem isBlank_of_mem_toString {n : Int} {c : Char} (h : c ∈ (toString n).toList) :
    isBlank c = false := by
  apply isBlank_of_visible
  rcases minus_or_digit_of_mem_toString h with rfl | hdigit
  · decide
  · omega

theorem strip_toString (n : Int) : strip (toString n) = toString n := by
  rw [strip, trimList_of_forall_not fun _ => isBlank_of_mem_toString, String.ofList_toList]

theorem trimList_toString (n : Int) :
    trimList isNumberBlank (toString n).toList = (toString n).toList := by
  apply trimList_of_forall_not
  intro c hc
  rw [isNumberBlank, isBlank_of_mem_toString hc, Bool.false_and]

/-- A number is read from its text, unless it has too many digits. -/
theorem readInt?_toString (n : Int) :
    readInt? (toString n) =
      if digitLimit < (digitsOf n.natAbs).length then none else some n := by
  -- the sign is taken off, and all that is left are the digits
  have hsign : splitSign (toString n).toList = (decide (n < 0), digitsOf n.natAbs) := by
    rw [toList_toString_int]
    by_cases hneg : n < 0
    · rw [if_pos hneg, decide_eq_true hneg]
      rfl
    · rw [if_neg hneg, decide_eq_false hneg, splitSign_digitsOf]
  rw [readInt?, trimList_toString, hsign]
  simp only [groupedDigits?_digitsOf, List.length_map, ofDigits_digitsOf, Option.bind_eq_bind,
    Option.bind_some]
  split
  · rfl
  · -- the sign that was taken off is put back
    by_cases hneg : n < 0
    · simp only [decide_eq_true hneg, if_true]
      exact congrArg some (by omega)
    · simp only [decide_eq_false hneg]
      exact congrArg some (by simp; omega)

theorem lt_of_mem_groupedDigits? {cs : List Char} {digits : List Nat}
    (h : groupedDigits? cs = some digits) : ∀ d ∈ digits, d < 10 := by
  fun_induction groupedDigits? cs generalizing digits with
  | case1 => cases h
  | case2 c =>
    obtain ⟨d, hd, rfl⟩ := Option.map_eq_some_iff.1 h
    simpa using digitValue?_lt hd
  | case3 c rest ih =>
    obtain ⟨d, hd, h⟩ := Option.bind_eq_some_iff.1 h
    obtain ⟨more, hmore, h⟩ := Option.bind_eq_some_iff.1 h
    cases h
    exact List.forall_mem_cons.2 ⟨digitValue?_lt hd, ih hmore⟩
  | case4 c rest _ _ ih =>
    obtain ⟨d, hd, h⟩ := Option.bind_eq_some_iff.1 h
    obtain ⟨more, hmore, h⟩ := Option.bind_eq_some_iff.1 h
    cases h
    exact List.forall_mem_cons.2 ⟨digitValue?_lt hd, ih hmore⟩

/-- A number that is read from a text has no more digits than such a text may have. -/
theorem isShort_of_readInt? {s : String} {n : Int} (h : readInt? s = some n) : IsShort n := by
  obtain ⟨digits, hdigits, h⟩ := Option.bind_eq_some_iff.1 h
  have hlt := ofDigits_lt (lt_of_mem_groupedDigits? hdigits)
  split at h
  · cases h
  · next hlength =>
    have hn : n.natAbs = ofDigits digits := by
      cases h
      split <;> omega
    rw [IsShort, digitsOf, Nat.length_toDigits_le_iff (by decide) (by decide), hn]
    exact Nat.lt_of_lt_of_le hlt (Nat.pow_le_pow_right (by decide) (by omega))

theorem length_digitsOf_of_fitsWord {n : Int} (h : Checked.fitsWord n = true) :
    (digitsOf n.natAbs).length ≤ 19 := by
  have hlimit : Checked.wordLimit = 0x8000000000000000 := rfl
  simp only [Checked.fitsWord, Bool.and_eq_true, decide_eq_true_eq] at h
  rw [digitsOf, Nat.length_toDigits_le_iff (by decide) (by decide)]
  omega

theorem isShort_of_fitsWord {n : Int} (h : Checked.fitsWord n = true) : IsShort n :=
  Nat.le_trans (length_digitsOf_of_fitsWord h) (by decide)

end Rulebook.Number
