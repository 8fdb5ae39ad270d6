import Mathlib
import Rulebook.Text.Blank

/-!
# Trimming

What is taken off the two ends of a text is all that stands there of a kind, so a text that has been
trimmed stays as it is, and what is put around a text before it is trimmed makes no difference.
-/

namespace Rulebook.Text

variable {p : Char → Bool} {cs : List Char}

theorem trimList_of_forall_not (h : ∀ c ∈ cs, p c = false) :
    trimList p cs = cs := by
  -- nothing is dropped where no character satisfies `p`
  have hdrop : ∀ cs : List Char, (∀ c ∈ cs, p c = false) → cs.dropWhile p = cs := by
    intro cs h
    cases cs with
    | nil => rfl
    | cons c rest => rw [List.dropWhile_cons_of_neg (by simp [h c List.mem_cons_self])]
  rw [trimList, hdrop cs h, hdrop cs.reverse fun c hc => h c (List.mem_reverse.1 hc),
    List.reverse_reverse]

/-- Nothing is left to take off a text that has been trimmed. -/
theorem trimList_trimList (p : Char → Bool) (cs : List Char) :
    trimList p (trimList p cs) = trimList p cs := by
  have htrim : ∀ cs : List Char, trimList p cs = (cs.dropWhile p).rdropWhile p := fun cs => rfl
  rw [htrim, htrim]
  -- what the end loses does not change the first character
  have hfront : ((cs.dropWhile p).rdropWhile p).dropWhile p = (cs.dropWhile p).rdropWhile p := by
    rw [List.dropWhile_eq_self_iff]
    intro hpos
    have hinit := List.rdropWhile_prefix p (cs.dropWhile p)
    have hpos' : 0 < (cs.dropWhile p).length := Nat.lt_of_lt_of_le hpos hinit.length_le
    rw [hinit.getElem hpos]
    exact List.dropWhile_get_zero_not p cs hpos'
  rw [hfront, List.rdropWhile_idempotent]

theorem trimList_padded {before after : List Char} (hbefore : ∀ c ∈ before, p c = true)
    (hafter : ∀ c ∈ after, p c = true) : trimList p (before ++ cs ++ after) = trimList p cs := by
  rw [List.append_assoc, trimList, List.dropWhile_append_of_pos hbefore]
  by_cases hnone : cs.dropWhile p = []
  · have hall : ∀ c ∈ cs ++ after, p c = true :=
      List.forall_mem_append.2 ⟨(dropWhile_eq_nil p cs).1 hnone, hafter⟩
    rw [(dropWhile_eq_nil p _).2 hall, trimList, hnone]
  · have hkept : (cs ++ after).dropWhile p = cs.dropWhile p ++ after := by
      rw [List.dropWhile_append, if_neg (by simpa using hnone)]
    rw [hkept, List.reverse_append,
      List.dropWhile_append_of_pos fun c hc => hafter c (List.mem_reverse.1 hc), trimList]

end Rulebook.Text
