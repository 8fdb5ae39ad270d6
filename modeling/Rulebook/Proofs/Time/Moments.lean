import Mathlib
import Rulebook.Time.Moment

/-!
# Comparing moments

Moments of one time zone are compared by their clocks, and moments of different zones by universal
time. Both ways agree on clear readings, those that a zone shows just once: they tell the instant,
and the instant tells them (`TimeZone.reading_unique`). So equality of moments is symmetric and
transitive, whatever their zones.

On readings that are not clear the two ways part. Two moments of different zones may tie: neither
precedes the other, and they are not equal.
-/

namespace Rulebook.Time

/-! ## Clear readings -/

namespace OffsetChange

variable {before instant reading : Int} {changes : List OffsetChange} {c : OffsetChange}

/-- The offset at an instant, given the one before the changes. -/
def offsetSince (instant : Int) : (before : Int) → List OffsetChange → Int
  | before, [] => before
  | before, c :: rest => if c.instant ≤ instant then offsetSince instant c.offset rest else before

theorem apart_cons_iff : apart before (c :: changes) = true ↔
    (∀ next ∈ changes.head?, c.settles before ≤ next.begins c.offset) ∧
      apart c.offset changes = true := by
  rw [apart, Bool.and_eq_true, Option.all_eq_true]
  simp only [decide_eq_true_eq, Option.mem_def]

/-- Changes that lie apart come one after another. -/
theorem instant_le_of_apart (h : apart before (c :: changes) = true) :
    ∀ next ∈ changes.head?, c.instant ≤ next.instant := by
  intro next hnext
  have := (apart_cons_iff.1 h).1 next hnext
  rw [settles, begins] at this
  omega

/-- Between the begin of a change and its end the next change has not begun. -/
theorem offsetAt_before_settles (h : apart before (c :: changes) = true) (fold : Bool)
    (hreading : reading < c.settles before) : offsetAt fold reading c.offset changes = c.offset := by
  cases changes with
  | nil => rfl
  | cons next rest =>
    have hnext := (apart_cons_iff.1 h).1 next rfl
    have hbegins : next.begins c.offset ≤ next.settles c.offset := by
      rw [begins, settles]
      omega
    rw [offsetAt, if_neg]
    cases fold <;> simp only [Bool.false_eq_true, if_true, if_false] <;> omega

/-- Once a change has happened, later ones can only have happened after it. -/
theorem instant_le_of_offsetSince (h : apart before (c :: changes) = true)
    (hsettled : c.settles before ≤ instant + offsetSince instant c.offset changes) :
    c.instant ≤ instant := by
  cases changes with
  | nil =>
    rw [offsetSince, settles] at hsettled
    omega
  | cons next rest =>
    have hnext := instant_le_of_apart h next rfl
    by_cases hpassed : next.instant ≤ instant
    · omega
    · rw [offsetSince, if_neg hpassed, settles] at hsettled
      omega

/-- A clear reading counts by the offset at the instant that it tells. -/
theorem offsetAt_eq_offsetSince (hapart : apart before changes = true)
    (hclear : offsetAt false reading before changes = offsetAt true reading before changes) :
    offsetSince (reading - offsetAt false reading before changes) before changes =
      offsetAt false reading before changes := by
  induction changes generalizing before with
  | nil => rfl
  | cons c rest ih =>
    have hbegins : c.begins before ≤ c.settles before := by
      rw [begins, settles]
      omega
    rw [offsetAt, offsetAt] at hclear
    simp only [Bool.false_eq_true, if_true, if_false] at hclear
    simp only [offsetAt, Bool.false_eq_true, if_false]
    by_cases hsettled : c.settles before ≤ reading
    · -- the change is over, and what follows tells the offset
      rw [if_pos hsettled, if_pos (hbegins.trans hsettled)] at hclear
      rw [if_pos hsettled]
      have hlater := ih (apart_cons_iff.1 hapart).2 hclear
      have hpassed : c.instant ≤ reading - offsetAt false reading c.offset rest := by
        apply instant_le_of_offsetSince hapart
        rw [hlater]
        omega
      rw [offsetSince, if_pos hpassed, hlater]
    · rw [if_neg hsettled] at hclear ⊢
      have hnotyet : ¬ c.begins before ≤ reading := by
        intro hbegun
        -- both offsets would count for the reading, and be the same
        rw [if_pos hbegun, offsetAt_before_settles hapart true (not_le.1 hsettled)] at hclear
        rw [begins, ← hclear] at hbegun
        rw [settles, ← hclear] at hsettled
        omega
      rw [offsetSince, if_neg]
      rw [begins] at hnotyet
      omega

end OffsetChange

/-- A clear reading is the only clear one that tells its instant. -/
theorem TimeZone.reading_unique {z : TimeZone} {r r' : Int}
    (hclear : z.offsetAt false r = z.offsetAt true r)
    (hclear' : z.offsetAt false r' = z.offsetAt true r')
    (hinstant : r - z.offsetAt false r = r' - z.offsetAt false r') : r = r' := by
  cases z with
  | fixed offset =>
    simp only [offsetAt] at hinstant
    omega
  | ruled zone =>
    have hoffset := OffsetChange.offsetAt_eq_offsetSince zone.apart hclear
    have hoffset' := OffsetChange.offsetAt_eq_offsetSince zone.apart hclear'
    simp only [offsetAt] at hinstant
    rw [← hinstant] at hoffset'
    have hsame := hoffset.symm.trans hoffset'
    omega

/-! ## Equal moments -/

namespace Moment

variable {l m n : Moment}

theorem offsetAt_eq_of_clear {z : TimeZone} (hzone : m.zone = some z)
    (h : m.isUnclear = false) : z.offsetAt false m.clockTime = z.offsetAt true m.clockTime := by
  simpa [isUnclear, hzone] using h

/-- On clear readings the mark of the later moment makes no difference. -/
theorem instant_of_clear {z : TimeZone} (hzone : m.zone = some z) (h : m.isUnclear = false) :
    m.instant = m.clockTime - z.offsetAt false m.clockTime := by
  have hclear := offsetAt_eq_of_clear hzone h
  rw [instant, offset, hzone, Option.map_some, Option.getD_some]
  cases m.fold with
  | false => rfl
  | true => rw [hclear]

theorem instant_of_none (h : m.zone = none) : m.instant = m.clockTime := by
  rw [instant, offset, h, Option.map_none, Option.getD_none, sub_zero]

theorem isUnclear_congr (hzone : m.zone = n.zone) (hclock : m.clockTime = n.clockTime) :
    m.isUnclear = n.isUnclear := by
  rw [isUnclear, isUnclear, hzone, hclock]

/-- The parts of an equality across zones. -/
structure SameInstant (m n : Moment) : Prop where
  comparable : m.comparable n = true
  instant : m.instant = n.instant
  clear : m.isUnclear = false
  clear' : n.isUnclear = false

theorem same_iff_of_zone (hzone : m.zone = n.zone) :
    m.same n = true ↔ m.clockTime = n.clockTime := by
  rw [same, if_pos hzone, beq_iff_eq]

theorem same_iff_of_zones (hzone : m.zone ≠ n.zone) : m.same n = true ↔ m.SameInstant n := by
  rw [same, if_neg hzone]
  simp only [Bool.and_eq_true, beq_iff_eq, Bool.not_eq_true']
  exact ⟨fun ⟨⟨⟨h, h'⟩, hm⟩, hn⟩ => ⟨h, h', hm, hn⟩, fun ⟨h, h', hm, hn⟩ => ⟨⟨⟨h, h'⟩, hm⟩, hn⟩⟩

theorem comparable_comm (m n : Moment) : m.comparable n = n.comparable m := by
  rw [comparable, comparable, Bool.beq_comm]

theorem comparable_trans (hlm : l.comparable m = true) (hmn : m.comparable n = true) :
    l.comparable n = true := by
  rw [comparable, beq_iff_eq] at *
  exact hlm.trans hmn

theorem comparable_of_zone (h : m.zone = n.zone) : m.comparable n = true := by
  rw [comparable, offset, offset, h, beq_iff_eq, Option.isSome_map, Option.isSome_map]

theorem SameInstant.symm (h : m.SameInstant n) : n.SameInstant m :=
  ⟨comparable_comm m n ▸ h.comparable, h.instant.symm, h.clear', h.clear⟩

theorem SameInstant.trans (h : l.SameInstant m) (h' : m.SameInstant n) : l.SameInstant n :=
  ⟨comparable_trans h.comparable h'.comparable, h.instant.trans h'.instant, h.clear, h'.clear'⟩

/-- Moments of one zone with clear readings are equal where their instants are. -/
theorem SameInstant.clockTime_eq (h : m.SameInstant n) (hzone : m.zone = n.zone) :
    m.clockTime = n.clockTime := by
  cases hm : m.zone with
  | none =>
    rw [← instant_of_none hm, h.instant, instant_of_none (hzone ▸ hm)]
  | some z =>
    have hn : n.zone = some z := hzone ▸ hm
    have hinstant := h.instant
    rw [instant_of_clear hm h.clear, instant_of_clear hn h.clear'] at hinstant
    exact TimeZone.reading_unique (offsetAt_eq_of_clear hm h.clear)
      (offsetAt_eq_of_clear hn h.clear') hinstant

/-- A moment may be exchanged for one of its zone with the same reading. -/
theorem SameInstant.of_reading (h : m.SameInstant n) (hzone : l.zone = m.zone)
    (hclock : l.clockTime = m.clockTime) : l.SameInstant n := by
  have hclear : l.isUnclear = false := (isUnclear_congr hzone hclock).trans h.clear
  refine ⟨comparable_trans (comparable_of_zone hzone) h.comparable, ?_, hclear, h.clear'⟩
  rw [← h.instant]
  cases hm : m.zone with
  | none => rw [instant_of_none hm, instant_of_none (hzone.trans hm), hclock]
  | some z =>
    rw [instant_of_clear hm h.clear, instant_of_clear (hzone.trans hm) hclear, hclock]

theorem same_symm (h : m.same n = true) : n.same m = true := by
  by_cases hzone : m.zone = n.zone
  · rw [same_iff_of_zone hzone] at h
    exact (same_iff_of_zone hzone.symm).2 h.symm
  · rw [same_iff_of_zones hzone] at h
    exact (same_iff_of_zones (Ne.symm hzone)).2 h.symm

/-- Equality of moments is transitive: what one zone says of a clear reading, every zone says. -/
theorem same_trans (hlm : l.same m = true) (hmn : m.same n = true) : l.same n = true := by
  by_cases hzone : l.zone = m.zone
  · -- `l` shows the reading of `m`, so it may take its place
    rw [same_iff_of_zone hzone] at hlm
    by_cases hzone' : m.zone = n.zone
    · rw [same_iff_of_zone hzone'] at hmn
      exact (same_iff_of_zone (hzone.trans hzone')).2 (hlm.trans hmn)
    · rw [same_iff_of_zones hzone'] at hmn
      exact (same_iff_of_zones (hzone ▸ hzone')).2 (hmn.of_reading hzone hlm)
  · rw [same_iff_of_zones hzone] at hlm
    by_cases hzone' : m.zone = n.zone
    · rw [same_iff_of_zone hzone'] at hmn
      refine (same_iff_of_zones (hzone' ▸ hzone)).2 ?_
      exact (hlm.symm.of_reading hzone'.symm hmn.symm).symm
    · rw [same_iff_of_zones hzone'] at hmn
      -- all three readings are clear; the zones of `l` and `n` may be one again
      have hboth := hlm.trans hmn
      by_cases hround : l.zone = n.zone
      · exact (same_iff_of_zone hround).2 (hboth.clockTime_eq hround)
      · exact (same_iff_of_zones hround).2 hboth

/-! ## Earlier moments -/

end Moment

end Rulebook.Time
