import Rulebook.Time.Moment

/-!
# Reading moments

The texts that hold a moment: a calendar date or a week date, with or without hyphens, and after
any one separating character a time of day, with or without colons, a fraction of a second and an
offset.

A text is read as its code units of eight bits, each as a character of its own: where the time
starts depends on counts of these units. A NUL ends a time early.
-/

namespace Rulebook.Time

/-- The code units of a text. -/
def codeUnits (s : String) : List Char := s.toUTF8.toList.map fun b => Char.ofNat b.toNat

/-- An ASCII digit. -/
def isAsciiDigit (c : Char) : Bool := '0' ≤ c && c ≤ '9'

/-- Reads exactly so many digits off the front. -/
def takeNumber? : Nat → List Char → Option (Nat × List Char)
  | count, cs =>
    let digits := cs.take count
    if digits.length = count && digits.all isAsciiDigit then
      some (digits.foldl (fun n c => 10 * n + (c.toNat - 0x30)) 0, cs.drop count)
    else none

/-- Nothing is left to read. -/
def atEnd : List Char → Bool
  | [] => true
  | c :: _ => c == Char.ofNat 0

/-! ## Times of day -/

/-- A time of day, or the size of an offset. Each field may exceed its range; the range is checked
once the whole text is read. -/
structure Clock where
  hour : Nat
  minute : Nat
  second : Nat
  microsecond : Nat
  /-- Whether the text ended where the time did. -/
  complete : Bool
  deriving DecidableEq, Repr

/-- The clock that shows the given fields, hour first. -/
def Clock.ofFields (fields : List Nat) (microsecond : Nat) (complete : Bool) : Clock :=
  ⟨fields.getD 0 0, fields.getD 1 0, fields.getD 2 0, microsecond, complete⟩

/-- Reads a fraction of a second: the first six digits count and further ones are skipped. -/
def readFraction? (fields : List Nat) (cs : List Char) : Option Clock := do
  let count := min cs.length 6
  let (value, rest) ← takeNumber? count cs
  return .ofFields fields (value * Nat.pow 10 (6 - count)) (atEnd (rest.dropWhile isAsciiDigit))

/-- Reads the fields of a time after the ones already read, each of two digits, then a fraction.
`withColons` is decided by the character after the first field. -/
def readFields? (withColons : Bool) (fields : List Nat) : Nat → List Char → Option Clock
  | 0, cs => readFraction? fields cs
  | left + 1, cs => do
    let (value, rest) ← takeNumber? 2 cs
    let fields := fields ++ [value]
    -- the first separator settles the form
    let withColons := if fields.length = 1 then rest.head? == some ':' else withColons
    match rest with
    | [] => return .ofFields fields 0 true
    | [c] => return .ofFields fields 0 (atEnd [c])
    | c :: more =>
      if withColons && c == ':' then readFields? withColons fields left more
      else if c == '.' || c == ',' then readFraction? fields more
      else if withColons then none
      else readFields? withColons fields left rest

/-- Reads a clock. -/
def readClock? (cs : List Char) : Option Clock := readFields? false [] 3 cs

/-- The character that starts an offset. -/
def isOffsetMark (c : Char) : Bool := c == '+' || c == '-' || c == 'Z'

/-- Reads an offset from its mark on, in microseconds. An offset of no whole second is zero. -/
def readOffset? : List Char → Option Int
  | [] => none
  | 'Z' :: rest => if atEnd rest then some 0 else none
  | mark :: rest => do
    let clock ← readClock? rest
    if !clock.complete then none
    -- what is below one second counts only together with a whole second
    let seconds := (clock.hour * 60 + clock.minute) * 60 + clock.second
    let size : Int := if seconds = 0 then 0 else seconds * 1000000 + clock.microsecond
    return if mark = '-' then -size else size

/-- Reads a time of day and the offset after it. A time that an offset follows may have one
character too many. -/
def readTime? (cs : List Char) : Option (Clock × Option Int) := do
  let clock ← readClock? (cs.takeWhile (!isOffsetMark ·))
  match cs.dropWhile (!isOffsetMark ·) with
  | [] => if clock.complete then return (clock, none) else none
  | offset => return (clock, some (← readOffset? offset))

/-! ## Dates -/

/-- Day number of the Monday that starts the first week of a year: the week with the first
Thursday. -/
def firstMonday (year : Nat) : Int :=
  let first := dayNumber year 1 1
  let lead := weekday first
  if 3 < lead then first + 7 - lead else first - lead

/-- The year has a fifty-third week: it starts on a Thursday, or on a Wednesday if it is a leap
year. -/
def hasLongYear (year : Nat) : Bool :=
  let lead := weekday (dayNumber year 1 1)
  lead == 3 || (lead == 2 && isLeapYear year)

/-- Month and day of the given day of a year, counted from one. -/
def monthAndDay (year : Nat) : Nat → Nat × Nat
  | day =>
    let month := ((List.range 12).filter fun m => daysBeforeMonth year (m + 1) < day).length
    (month, day - daysBeforeMonth year month)

/-- The date of a day number that lies in the given year or next to it. -/
def dateNear? (year : Nat) (number : Int) : Option (Nat × Nat × Nat) := do
  let found ← [year - 1, year, year + 1].find? fun y =>
    1 ≤ y && y ≤ 9999 && (daysBeforeYear y : Int) < number &&
      number ≤ (daysBeforeYear (y + 1) : Int)
  let (month, day) := monthAndDay found (number - daysBeforeYear found).toNat
  return (found, month, day)

/-- The date of a day of a week of a year. -/
def dateOfWeek? (year week day : Nat) : Option (Nat × Nat × Nat) :=
  if year = 0 then none
  else if week = 0 || 53 < week || (week = 53 && !hasLongYear year) then none
  else if day = 0 || 7 < day then none
  else dateNear? year (firstMonday year + (week - 1) * 7 + (day - 1))

/-- Where the date ends and the separating character stands. -/
def dateLength? (cs : List Char) : Option Nat :=
  let isDigitAt (i : Nat) : Bool := (cs[i]?.map isAsciiDigit).getD false
  if cs.length < 7 then none
  else if cs.length = 7 then some 7
  -- a date with hyphens
  else if cs[4]? = some '-' then
    if cs[5]? = some 'W' then
      if cs[8]? = some '-' then
        if cs.length = 9 then none
        -- the second hyphen separates the time if more than the day follows
        else if isDigitAt 10 then some 8
        else some 10
      else some 8
    else some 10
  -- a week date without hyphens: its run of digits tells whether the day is there
  else if cs[4]? = some 'W' then
    let digitsEnd := 7 + ((cs.drop 7).takeWhile isAsciiDigit).length
    if digitsEnd < 9 then some digitsEnd
    else if digitsEnd % 2 = 0 then some 7
    else some 8
  else some 8

/-- Takes the given character off the front if the form of the date asks for one. -/
def skipMark? (wanted : Bool) (mark : Char) : List Char → Option (List Char)
  | cs =>
    if wanted then
      match cs with
      | c :: rest => if c = mark then some rest else none
      | [] => none
    else some cs

/-- Reads a date that fills the text. -/
def readDate? (cs : List Char) : Option (Nat × Nat × Nat) := do
  let (year, rest) ← takeNumber? 4 cs
  let hyphens := rest.head? == some '-'
  let rest ← skipMark? hyphens '-' rest
  match rest with
  | 'W' :: rest =>
    let (week, rest) ← takeNumber? 2 rest
    if rest.isEmpty then dateOfWeek? year week 1
    else
      let rest ← skipMark? hyphens '-' rest
      let (day, _) ← takeNumber? 1 rest
      dateOfWeek? year week day
  | rest =>
    let (month, rest) ← takeNumber? 2 rest
    let rest ← skipMark? hyphens '-' rest
    let (day, _) ← takeNumber? 2 rest
    return (year, month, day)

/-! ## Moments -/

/-- Number of code units of a character, from its first unit. -/
def unitCount (lead : Char) : Nat :=
  if lead.toNat < 0x80 then 1
  else if lead.toNat / 16 = 14 then 3
  else if lead.toNat / 16 = 15 then 4
  else 2

/-- Reads a moment. -/
def readMoment? (s : String) : Option Moment := do
  let cs := codeUnits s
  let length ← dateLength? cs
  let (year, month, day) ← readDate? (cs.take length)
  let (clock, offset) ← match cs.drop length with
    | [] => pure (Clock.ofFields [] 0 true, none)
    | lead :: rest => readTime? (rest.drop (unitCount lead - 1))
  let m : Moment := ⟨year, month, day, clock.hour, clock.minute, clock.second, clock.microsecond,
    false, offset.map .fixed⟩
  if m.isValid then return m else none

end Rulebook.Time
