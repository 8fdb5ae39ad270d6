import Rulebook.Number.Shortest
import Rulebook.Text.Quoted
import Rulebook.Time.Zone

/-!
# Moments

A moment is a date and a time of day, to the microsecond, in the proleptic Gregorian calendar. It
may be that of a time zone, and carries an offset from universal time then. Two moments are
comparable when both carry an offset, or when neither does.

Moments of one time zone are compared by their clock readings, and moments of different zones by
universal time. But moments of different zones are never equal if the zone of one of them skips its
clock reading or shows it twice.
-/

namespace Rulebook.Time

open Rulebook.Number (decimalDigits)

/-! ## The calendar -/

/-- A leap year. -/
def isLeapYear (year : Nat) : Bool :=
  year % 4 == 0 && (year % 100 != 0 || year % 400 == 0)

/-- Days in a month of a common year. -/
def commonMonthLengths : List Nat := [31, 28, 31, 30, 31, 30, 31, 31, 30, 31, 30, 31]

/-- Days in a month. -/
def daysInMonth (year month : Nat) : Nat :=
  if month = 2 && isLeapYear year then 29 else commonMonthLengths.getD (month - 1) 0

/-- Days before the first of January of a year, counted from the first of January of year one. -/
def daysBeforeYear (year : Nat) : Nat :=
  let full := year - 1
  full * 365 + full / 4 - full / 100 + full / 400

/-- Days of a year before the first of a month. -/
def daysBeforeMonth (year month : Nat) : Nat :=
  (List.range (month - 1)).foldl (fun days m => days + daysInMonth year (m + 1)) 0

/-- Number of a day, the first of January of year one being day one. -/
def dayNumber (year month day : Nat) : Nat :=
  daysBeforeYear year + daysBeforeMonth year month + day

/-- Day of the week of a day number, Monday being zero. -/
def weekday (number : Nat) : Nat := (number + 6) % 7

/-! ## Moments -/

/-- A date and time of day, with its time zone if that is known. -/
structure Moment where
  year : Nat
  month : Nat
  day : Nat
  hour : Nat
  minute : Nat
  second : Nat
  microsecond : Nat
  /-- The later one of two moments with the same clock reading. -/
  fold : Bool
  zone : Option TimeZone
  deriving DecidableEq, Repr

namespace Moment

/-- Microseconds since the start of day zero, by the moment's own clock. -/
def clockTime (m : Moment) : Int :=
  (((dayNumber m.year m.month m.day * 24 + m.hour) * 60 + m.minute) * 60 + m.second) * 1000000 +
    m.microsecond

/-- The offset from universal time, if it is known. -/
def offset (m : Moment) : Option Int := m.zone.map fun z => z.offsetAt m.fold m.clockTime

/-- The fields lie in the ranges of the calendar, and the offset is less than a day. -/
def isValid (m : Moment) : Bool :=
  1 ≤ m.year && m.year ≤ 9999 && 1 ≤ m.month && m.month ≤ 12 && 1 ≤ m.day &&
    m.day ≤ daysInMonth m.year m.month && m.hour < 24 && m.minute < 60 && m.second < 60 &&
    m.microsecond < 1000000 && m.offset.all fun o => o.natAbs < 86400000000

/-- Microseconds since the start of day zero, by the clock of universal time if the offset is
known. -/
def instant (m : Moment) : Int := m.clockTime - m.offset.getD 0

/-- Both moments carry an offset, or neither does. -/
def comparable (a b : Moment) : Bool := a.offset.isSome == b.offset.isSome

/-- The zone skips the clock reading or shows it twice. -/
def isUnclear (m : Moment) : Bool :=
  m.zone.any fun z => z.offsetAt false m.clockTime != z.offsetAt true m.clockTime

/-- The moments are equal. -/
def same (a b : Moment) : Bool :=
  if a.zone = b.zone then a.clockTime == b.clockTime
  else a.comparable b && a.instant == b.instant && !a.isUnclear && !b.isUnclear

/-- The moments are comparable and the first is earlier. -/
def precedes (a b : Moment) : Bool :=
  if a.zone = b.zone then decide (a.clockTime < b.clockTime)
  else a.comparable b && decide (a.instant < b.instant)

/-! ## Text -/

/-- A number with zeros in front up to the given width. -/
def padded (width n : Nat) : List Char :=
  let digits := decimalDigits n
  List.replicate (width - digits.length) '0' ++ digits

/-- A time of day or of an offset, from seconds and microseconds: hours and minutes, and seconds
where `withSeconds` asks for them or something is left for them. -/
def clockText (withSeconds : Bool) (seconds microseconds : Nat) : List Char :=
  padded 2 (seconds / 3600) ++ ':' :: padded 2 (seconds / 60 % 60) ++
    (if withSeconds || seconds % 60 != 0 || microseconds != 0 then ':' :: padded 2 (seconds % 60)
      else []) ++
    (if microseconds != 0 then '.' :: padded 6 microseconds else [])

/-- The text of an offset. -/
def offsetText (offset : Int) : List Char :=
  (if offset < 0 then '-' else '+') ::
    clockText false (offset.natAbs / 1000000) (offset.natAbs % 1000000)

/-- The text of a moment, with the given mark between date and time. -/
def text (m : Moment) (mark : Char) : String :=
  String.ofList (padded 4 m.year ++ '-' :: padded 2 m.month ++ '-' :: padded 2 m.day ++ mark ::
    clockText true ((m.hour * 60 + m.minute) * 60 + m.second) m.microsecond ++
    (m.offset.map offsetText).getD [])

/-- Parts of a list of arguments, each but the first with a comma in front. -/
def commaSeparated (parts : List String) : String := ", ".intercalate parts

/-- The constructor form of a length of time in microseconds: days, seconds and microseconds, the
latter two never negative, zeros left out. -/
def spanConstructor (span : Int) : String :=
  let days := span.fdiv 86400000000
  let rest := (span.fmod 86400000000).toNat
  let part (name : String) (n : Int) : List String :=
    if n = 0 then [] else [name ++ "=" ++ toString n]
  let parts := part "days" days ++ part "seconds" (rest / 1000000 : Nat) ++
    part "microseconds" (rest % 1000000 : Nat)
  "datetime.timedelta(" ++ (if parts.isEmpty then "0" else commaSeparated parts) ++ ")"

/-- The constructor form of an offset. -/
def offsetConstructor (offset : Int) : String :=
  if offset = 0 then "datetime.timezone.utc"
  else "datetime.timezone(" ++ spanConstructor offset ++ ")"

/-- The constructor form of a time zone. -/
def zoneConstructor : TimeZone → String
  | .fixed offset => offsetConstructor offset
  | .ruled zone => "zoneinfo.ZoneInfo(key=" ++ Text.quoted zone.name ++ ")"

/-- The constructor form of a moment, as it stands inside the text of a list: seconds and
microseconds are left out where they and all after them are zero. -/
def constructorText (m : Moment) : String :=
  let fields := [m.year, m.month, m.day, m.hour, m.minute] ++
    (if m.second != 0 || m.microsecond != 0 then [m.second] else []) ++
    (if m.microsecond != 0 then [m.microsecond] else [])
  "datetime.datetime(" ++ commaSeparated (fields.map toString ++
    (if m.fold then ["fold=1"] else []) ++
    (m.zone.map fun z => "tzinfo=" ++ zoneConstructor z).toList) ++ ")"

end Moment

end Rulebook.Time
