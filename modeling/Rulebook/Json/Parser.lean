import Rulebook.Json.Basic
import Rulebook.Number.Reading

/-!
# Reading JSON

Reads a text that holds one JSON value. Besides the numbers of the standard it accepts the names
`NaN`, `Infinity` and `-Infinity`. A text that is not JSON is refused with the place, counted in
characters from zero, where reading stopped; a whole number of more than `digitLimit` digits is
refused without a place.
-/

namespace Rulebook.Json

open Rulebook.Number

/-- Why a text is refused. -/
inductive ReadError where
  /-- The text is not JSON; reading stopped at this character. -/
  | malformed (position : Nat)
  /-- A whole number has too many digits. -/
  | tooManyDigits
  deriving DecidableEq, Repr

/-- A place in a text: the characters passed and those still to be read. -/
structure Cursor where
  position : Nat
  rest : List Char

namespace Cursor

/-- The cursor after the given number of characters. -/
def skip (c : Cursor) (count : Nat) : Cursor := ⟨c.position + count, c.rest.drop count⟩

/-- A blank between the parts of a JSON text. -/
def isGap (c : Char) : Bool := c == ' ' || c == '\t' || c == '\n' || c == '\r'

/-- The cursor after the blanks in front of it. -/
def skipGap (c : Cursor) : Cursor := c.skip (c.rest.takeWhile isGap).length

/-- Refuses the text at the cursor. -/
def refuse {α : Type} (c : Cursor) : Except ReadError α := .error (.malformed c.position)

end Cursor

/-! ## Texts -/

/-- The value of a hexadecimal digit. -/
def hexValue? (c : Char) : Option Nat :=
  if '0' ≤ c && c ≤ '9' then some (c.toNat - 0x30)
  else if 'a' ≤ c && c ≤ 'f' then some (c.toNat - 0x57)
  else if 'A' ≤ c && c ≤ 'F' then some (c.toNat - 0x37)
  else none

/-- The number that four hexadecimal digits denote. -/
def hexNumber? (cs : List Char) : Option Nat :=
  if cs.length = 4 then cs.foldlM (fun n c => (hexValue? c).map (16 * n + ·)) 0 else none

/-- The character that a one-letter escape stands for. -/
def shortEscape? (c : Char) : Option Char :=
  if c == '"' || c == '\\' || c == '/' then some c
  else if c == 'b' then some (Char.ofNat 8)
  else if c == 'f' then some (Char.ofNat 12)
  else if c == 'n' then some '\n'
  else if c == 'r' then some '\r'
  else if c == 't' then some '\t'
  else none

/-- The first half of a pair of code units that stands for one character. -/
def isHighHalf (n : Nat) : Bool := 0xD800 ≤ n && n ≤ 0xDBFF

/-- The second half of such a pair. -/
def isLowHalf (n : Nat) : Bool := 0xDC00 ≤ n && n ≤ 0xDFFF

/-- The character of a code unit; a half without its partner becomes the replacement character. -/
def charOfUnit (n : Nat) : Char :=
  if isHighHalf n || isLowHalf n then Char.ofNat 0xFFFD else Char.ofNat n

/-- The character that a pair of halves stands for. -/
def charOfPair (high low : Nat) : Char :=
  Char.ofNat (0x10000 + (high - 0xD800) * 0x400 + (low - 0xDC00))

/-- The low half written as an escape at the front, if there is one. The escape must be followed by
a further character. -/
def lowHalf? : List Char → Except Unit (Option Nat)
  | '\\' :: 'u' :: rest =>
    if rest.length < 5 then .ok none
    else match hexNumber? (rest.take 4) with
      | none => .error ()
      | some n => .ok (if isLowHalf n then some n else none)
  | _ => .ok none

/-- Reads a text after its opening quote. `start` is the place of that quote. -/
def readText (start : Nat) : Nat → List Char → Cursor → Except ReadError (String × Cursor)
  | 0, _, _ => .error (.malformed start)
  | fuel + 1, done, c =>
    match c.rest with
    | [] => .error (.malformed start)
    | '"' :: _ => .ok (String.ofList done.reverse, c.skip 1)
    | '\\' :: [] => .error (.malformed start)
    | '\\' :: 'u' :: rest =>
      if rest.length < 5 then (c.skip 1).refuse
      else match hexNumber? (rest.take 4) with
        | none => (c.skip 1).refuse
        | some high =>
          -- the low half may follow in an escape of its own
          if isHighHalf high then
            match lowHalf? (rest.drop 4) with
            | .error _ => (c.skip 7).refuse
            | .ok (some low) => readText start fuel (charOfPair high low :: done) (c.skip 12)
            | .ok none => readText start fuel (charOfUnit high :: done) (c.skip 6)
          else readText start fuel (charOfUnit high :: done) (c.skip 6)
    | '\\' :: e :: _ =>
      match shortEscape? e with
      | none => c.refuse
      | some ch => readText start fuel (ch :: done) (c.skip 2)
    | ch :: _ =>
      if ch.toNat < 0x20 then c.refuse else readText start fuel (ch :: done) (c.skip 1)

/-- Reads a text from the character after its opening quote. -/
def textAfterQuote (c : Cursor) : Except ReadError (String × Cursor) :=
  readText (c.position - 1) (c.rest.length + 1) [] c

/-! ## Numbers -/

/-- An ASCII digit. -/
def isDigit (c : Char) : Bool := '0' ≤ c && c ≤ '9'

/-- The number that ASCII digits denote. -/
def numberOf (digits : List Char) : Nat := ofDigits (digits.map fun c => c.toNat - 0x30)

/-- The digits in front, a zero standing alone. -/
def wholeDigits : List Char → List Char
  | '0' :: _ => ['0']
  | cs => cs.takeWhile isDigit

/-- The digits of a fraction in front, if there is a point and a digit after it. -/
def fractionDigits : List Char → List Char
  | '.' :: rest => rest.takeWhile isDigit
  | _ => []

/-- The exponent in front: its length and its value, if there is a mark and a digit for it. -/
def exponent? : List Char → Option (Nat × Int)
  | mark :: rest =>
    if mark == 'e' || mark == 'E' then
      let (negative, digits) := splitSign rest
      let own := digits.takeWhile isDigit
      if own.isEmpty then none
      else
        let size : Int := numberOf own
        some (1 + (rest.length - digits.length) + own.length, if negative then -size else size)
    else none
  | [] => none

/-- Reads a number, or refuses the text where the number should start. -/
def readNumber (c : Cursor) : Except ReadError (Json × Cursor) :=
  let negative := c.rest.head? == some '-'
  let body := if negative then c.rest.drop 1 else c.rest
  let whole := wholeDigits body
  if whole.isEmpty then c.refuse
  else
    let fraction := fractionDigits (body.drop whole.length)
    let fractionLength := if fraction.isEmpty then 0 else fraction.length + 1
    let exponent := exponent? (body.drop (whole.length + fractionLength))
    let length := (if negative then 1 else 0) + whole.length + fractionLength +
      (exponent.map (·.1)).getD 0
    -- without a fraction and an exponent the number stays exact
    if fraction.isEmpty && exponent.isNone then
      if digitLimit < whole.length then .error .tooManyDigits
      else
        let size : Int := numberOf whole
        .ok (.int (if negative then -size else size), c.skip length)
    else
      .ok (.double (.ofDecimal negative (numberOf (whole ++ fraction))
        ((exponent.map (·.2)).getD 0 - fraction.length)), c.skip length)

/-! ## Values -/

/-- The values that are written as names. -/
def names : List (String × Json) :=
  [("null", .null), ("true", .bool true), ("false", .bool false), ("NaN", .double .nan),
   ("Infinity", .double (.infinity false)), ("-Infinity", .double (.infinity true))]

/-- Reads a name or a number. -/
def readPlain (c : Cursor) : Except ReadError (Json × Cursor) :=
  match names.find? fun n => n.1.toList.isPrefixOf c.rest with
  | some (name, value) => .ok (value, c.skip name.length)
  | none => readNumber c

mutual

/-- Reads a value that starts at the cursor. -/
def readValue : Nat → Cursor → Except ReadError (Json × Cursor)
  | 0, c => c.refuse
  | fuel + 1, c =>
    match c.rest with
    | '"' :: _ => do
      let (s, c) ← textAfterQuote (c.skip 1)
      return (.text s, c)
    | '[' :: _ =>
      let inner := (c.skip 1).skipGap
      if inner.rest.head? == some ']' then .ok (.array [], inner.skip 1)
      else do
        let (items, c) ← readItems fuel inner
        return (.array items, c)
    | '{' :: _ =>
      let inner := (c.skip 1).skipGap
      if inner.rest.head? == some '}' then .ok (.object [], inner.skip 1)
      else do
        let (members, c) ← readMembers fuel inner
        return (ofMembers members, c)
    | _ => readPlain c

/-- Reads the items of an array up to its closing bracket. -/
def readItems : Nat → Cursor → Except ReadError (List Json × Cursor)
  | 0, c => c.refuse
  | fuel + 1, c => do
    let (item, c) ← readValue fuel c
    let c := c.skipGap
    match c.rest.head? with
    | some ']' => return ([item], c.skip 1)
    | some ',' =>
      let (items, c) ← readItems fuel (c.skip 1).skipGap
      return (item :: items, c)
    | _ => c.refuse

/-- Reads the members of an object up to its closing brace. -/
def readMembers : Nat → Cursor → Except ReadError (List (String × Json) × Cursor)
  | 0, c => c.refuse
  | fuel + 1, c => do
    if c.rest.head? != some '"' then c.refuse
    let (name, c) ← textAfterQuote (c.skip 1)
    let c := c.skipGap
    if c.rest.head? != some ':' then c.refuse
    let (value, c) ← readValue fuel (c.skip 1).skipGap
    let c := c.skipGap
    match c.rest.head? with
    | some '}' => return ([(name, value)], c.skip 1)
    | some ',' =>
      let (members, c) ← readMembers fuel (c.skip 1).skipGap
      return ((name, value) :: members, c)
    | _ => c.refuse

end

/-- Reads a text that holds one JSON value and nothing else. -/
def parse (s : String) : Except ReadError Json := do
  let start := (Cursor.mk 0 s.toList).skipGap
  -- each nesting costs a character, and a step of each of the two readers
  let (value, c) ← readValue (2 * s.length + 2) start
  let c := c.skipGap
  if c.rest.isEmpty then return value else .error (.malformed c.position)

end Rulebook.Json
