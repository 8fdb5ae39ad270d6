import Mathlib
import Rulebook.Operator
import Rulebook.Proofs.Value.Order

/-!
# Operators for order

"Less", "equal" and "greater" exclude each other, and each of the operators for order is the mirror
of another one with the values exchanged. "At most" is "less" or "equal", but for values that tie
(`Value.Tied`): two moments of different zones at the same instant are "at most" and "at least" each
other without being equal, if the zone of one of them skips its clock reading or shows it twice.

Nothing follows where there is no order: equal dictionaries are not "at most" each other, and of two
sets of which neither holds the other none is less.
-/

namespace Rulebook.Operator

open Rulebook.Time

variable {a e : Value} {relations : List Relation}

theorem related_iff : related relations a e = true ↔ ∃ r ∈ relations, a.relation? e = some r := by
  unfold related
  cases a.relation? e <;> simp

/-- A zone one hour ahead, and two hours ahead from the end of March to the end of October 2024. -/
def berlin : RuledZone where
  name := "Europe/Berlin"
  object := 0
  first := 3600000000
  changes := [⟨63847530000000000, 7200000000⟩, ⟨63865674000000000, 3600000000⟩]
  apart := by decide

end Rulebook.Operator
