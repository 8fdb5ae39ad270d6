/-!
# Time zones

A time zone says how far the clocks of a place are ahead of universal time. It has one offset for
good, or is ruled by changes of the offset at certain instants.

Where clocks are set forward they skip readings, and where they are set back they show readings a
second time. So a reading alone does not tell an offset: of two moments with the same reading the
later one is marked by the `fold`. A skipped reading without the mark counts by the offset from
before the change, and with it by the offset from then on.

Instants, offsets and clock readings are in microseconds.
-/

namespace Rulebook.Time

/-- A change of an offset. -/
structure OffsetChange where
  /-- When the offset changes, by universal time. -/
  instant : Int
  /-- The offset from then on. -/
  offset : Int
  deriving DecidableEq, Repr

namespace OffsetChange

/-- The first clock reading that the new offset may count for. -/
def begins (c : OffsetChange) (before : Int) : Int := c.instant + min before c.offset

/-- The first clock reading that only the new offset counts for. -/
def settles (c : OffsetChange) (before : Int) : Int := c.instant + max before c.offset

/-- The offset that counts for a clock reading, given the one before the changes. -/
def offsetAt (fold : Bool) (reading : Int) : (before : Int) → List OffsetChange → Int
  | before, [] => before
  | before, c :: rest =>
    if (if fold then c.begins before else c.settles before) ≤ reading then
      offsetAt fold reading c.offset rest
    else before

/-- The clocks are through with each change before the next one begins to count. -/
def apart : (before : Int) → List OffsetChange → Bool
  | _, [] => true
  | before, c :: rest =>
    rest.head?.all (fun next => c.settles before ≤ next.begins c.offset) &&
      apart c.offset rest

end OffsetChange

/-- A zone that is ruled by changes. -/
structure RuledZone where
  name : String
  /-- Zones that are made apart from each other are different objects, even if they are alike. -/
  object : Nat
  /-- The offset before all changes. -/
  first : Int
  changes : List OffsetChange
  apart : OffsetChange.apart first changes = true
  deriving DecidableEq, Repr

/-- A time zone. -/
inductive TimeZone where
  | fixed (offset : Int)
  | ruled (zone : RuledZone)
  deriving DecidableEq, Repr

/-- The offset that counts for a clock reading. -/
def TimeZone.offsetAt (fold : Bool) (reading : Int) : TimeZone → Int
  | fixed offset => offset
  | ruled zone => OffsetChange.offsetAt fold reading zone.first zone.changes

end Rulebook.Time
