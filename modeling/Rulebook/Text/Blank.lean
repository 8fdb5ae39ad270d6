/-!
# Blank characters

Which characters count as blank, and removal of blanks at the two ends of a text.

`strip` is used wherever stored text is read: a text whose `strip` is empty holds nothing. The
reading of numbers has a blank set of its own (`isNumberBlank`), because the four separator
controls `U+001C` to `U+001F` are blank in a text but are not skipped in front of a number.
-/

namespace Rulebook.Text

/-- A code point lies in one of the closed ranges. -/
def inRanges (ranges : List (Nat × Nat)) (code : Nat) : Bool :=
  ranges.any fun r => r.1 ≤ code && code ≤ r.2

/-! ## The blank set -/

/-- Ranges of the characters that Unicode separates words, lines or paragraphs with. -/
def blankRanges : List (Nat × Nat) :=
  [(0x09, 0x0D), (0x1C, 0x20), (0x85, 0x85), (0xA0, 0xA0), (0x1680, 0x1680), (0x2000, 0x200A),
   (0x2028, 0x2029), (0x202F, 0x202F), (0x205F, 0x205F), (0x3000, 0x3000)]

/-- A blank character. -/
def isBlank (c : Char) : Bool := inRanges blankRanges c.toNat

/-- A blank that may stand before or after the digits of a number: every blank except the
separator controls. -/
def isNumberBlank (c : Char) : Bool := isBlank c && !(0x1C ≤ c.toNat && c.toNat ≤ 0x1F)

/-! ## Removing blanks at the ends -/

/-- The characters left after those satisfying `p` are taken off both ends. -/
def trimList (p : Char → Bool) (cs : List Char) : List Char :=
  ((cs.dropWhile p).reverse.dropWhile p).reverse

/-- The text without the blanks at its two ends. -/
def strip (s : String) : String := String.ofList (trimList isBlank s.toList)

/-- A text that holds nothing but blanks. -/
def isBlankText (s : String) : Bool := s.toList.all isBlank

/-- A list is dropped whole exactly when each of its characters satisfies `p`. -/
theorem dropWhile_eq_nil (p : Char → Bool) (cs : List Char) :
    cs.dropWhile p = [] ↔ ∀ c ∈ cs, p c = true := by
  induction cs with
  | nil => simp
  | cons c rest ih => by_cases h : p c = true <;> simp [h, ih]

/-- Of what is left after dropping, some character does not satisfy `p`, unless nothing is left. -/
theorem exists_of_dropWhile_ne_nil {p : Char → Bool} {cs : List Char} (h : cs.dropWhile p ≠ []) :
    ∃ c ∈ cs.dropWhile p, p c = false := by
  induction cs with
  | nil => simp at h
  | cons c rest ih =>
    by_cases hc : p c = true
    · simpa [hc] using ih (by simpa [hc] using h)
    · exact ⟨c, by simp [hc], by simpa using hc⟩

/-- Taking characters off both ends leaves nothing exactly when there was nothing else. -/
theorem trimList_eq_nil (p : Char → Bool) (cs : List Char) :
    trimList p cs = [] ↔ ∀ c ∈ cs, p c = true := by
  rw [trimList, List.reverse_eq_nil_iff, dropWhile_eq_nil, ← dropWhile_eq_nil p cs]
  constructor
  · intro h
    by_cases hd : cs.dropWhile p = []
    · exact hd
    · obtain ⟨c, hc, hp⟩ := exists_of_dropWhile_ne_nil hd
      simp [h c (List.mem_reverse.2 hc)] at hp
  · intro h c hc
    simp [h] at hc

end Rulebook.Text
