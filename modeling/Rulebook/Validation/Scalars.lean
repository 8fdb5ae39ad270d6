import Rulebook.Validation.Basic
import Rulebook.Number.Reading

/-!
# Reading scalars

The lenient readings of texts, whole numbers, truth values and named choices. A whole number may be
given as a text, a truth value or a double without a fraction; a truth value as a text or as zero or
one.
-/

namespace Rulebook.Checked

open Rulebook.Number Rulebook.Text

/-- Reads a text. -/
def text : Json → Checked String
  | .text s => ok s
  | _ => fault .stringType

/-- Reads a text with at least so many characters. -/
def longText (least : Nat) (j : Json) : Checked String :=
  (text j).andThen fun s => if s.length < least then fault .stringTooShort else ok s

/-- Reads one of a list of named choices. -/
def choice {α : Type} (ofName? : String → Option α) : Json → Checked α
  | .text s =>
    match ofName? s with
    | some a => ok a
    | none => fault .enum
  | _ => fault .enum

/-! ## Whole numbers -/

/-- An ASCII digit other than zero. -/
def isLeadingDigit (c : Char) : Bool := '1' ≤ c && c ≤ '9'

/-- Drops zeros and underscores after a zero, keeping the character just before a point and the last
character of all. -/
def dropZeros (last : Char) : List Char → Option (List Char)
  | [] => some [last]
  | c :: rest =>
    if c == '0' || c == '_' then dropZeros c rest
    else if isLeadingDigit c then some (c :: rest)
    else if c == '.' then some (last :: c :: rest)
    else none

/-- Drops the zeros in front of a number. -/
def dropLeadingZeros? : List Char → Option (List Char)
  | '0' :: rest => dropZeros '0' rest
  | c :: rest => if isLeadingDigit c || c == '-' then some (c :: rest) else none
  | [] => none

/-- Drops a fraction that holds nothing but zeros. -/
def dropZeroFraction (cs : List Char) : List Char :=
  match cs.dropWhile (· ≠ '.') with
  | _ :: fraction => if fraction.all (· == '0') then cs.takeWhile (· ≠ '.') else cs
  | [] => cs

/-- Two underscores stand side by side. -/
def hasDoubleUnderscore : List Char → Bool
  | '_' :: '_' :: _ => true
  | _ :: rest => hasDoubleUnderscore rest
  | [] => false

/-- Drops the underscores where each stands alone and none at an end. -/
def dropUnderscores (cs : List Char) : List Char :=
  if cs.head? == some '_' || cs.getLast? == some '_' || hasDoubleUnderscore cs then cs
  else cs.filter (· ≠ '_')

/-- An ASCII digit. -/
def isAsciiDigit (c : Char) : Bool := '0' ≤ c && c ≤ '9'

/-- The number that a sign and ASCII digits denote. -/
def signedDigits? (cs : List Char) : Option Int :=
  let negative := cs.head? == some '-'
  let digits := if negative then cs.drop 1 else cs
  if digits.isEmpty || !digits.all isAsciiDigit then none
  else
    let size : Int := ofDigits (digits.map fun c => c.toNat - 0x30)
    some (if negative then -size else size)

/-- Reads a text as a whole number. -/
def intOfText (s : String) : Checked Int :=
  let body := trimList isNumberBlank s.toList
  let unsigned := if body.head? == some '+' then body.drop 1 else body
  match dropLeadingZeros? unsigned with
  | none => fault .intParsing
  | some cs =>
    let cs := dropUnderscores (dropZeroFraction cs)
    if digitLimit < cs.length then fault .intParsingSize
    else match signedDigits? cs with
      | some n => ok n
      | none => fault .intParsing

/-- The first whole number that does not fit into sixty-four bits with a sign. -/
def wordLimit : Int := 0x8000000000000000

/-- A whole number fits into sixty-four bits with a sign. -/
def fitsWord (n : Int) : Bool := -wordLimit ≤ n && n < wordLimit

/-- The whole number that a double without a fraction is. -/
def intOfDouble (d : Double) : Checked Int :=
  match d.truncate? with
  | none => fault .finiteNumber
  | some n =>
    if !d.isWhole then fault .intFromFloat
    else if fitsWord n then ok n
    else fault .intParsingSize

/-- Reads a whole number. -/
def int : Json → Checked Int
  | .int n => ok n
  | .bool b => ok (if b then 1 else 0)
  | .double d => intOfDouble d
  | .text s => intOfText s
  | _ => fault .intType

/-- Reads a whole number between bounds, each of which may be open. -/
def intBetween (least most : Option Int) (j : Json) : Checked Int :=
  (int j).andThen fun n =>
    if least.any fun bound => n < bound then fault .atLeast
    else if most.any fun bound => bound < n then fault .atMost
    else ok n

/-! ## Truth values -/

/-- The texts that are read as true. -/
def trueTexts : List String := ["1", "on", "t", "true", "y", "yes"]

/-- The texts that are read as false. -/
def falseTexts : List String := ["0", "off", "f", "false", "n", "no"]

/-- Reads a text as a truth value, in either case. -/
def boolOfText (s : String) : Checked Bool :=
  let word := String.ofList (s.toList.map Char.toLower)
  if trueTexts.contains word then ok true
  else if falseTexts.contains word then ok false
  else fault .boolParsing

/-- Reads a whole number as a truth value. -/
def boolOfInt (n : Int) : Checked Bool :=
  if n = 0 then ok false else if n = 1 then ok true else fault .boolParsing

/-- Reads a truth value. -/
def bool : Json → Checked Bool
  | .bool b => ok b
  | .text s => boolOfText s
  | .int n => if fitsWord n then boolOfInt n else fault .boolType
  | .double d =>
    match intOfDouble d with
    | ok n => boolOfInt n
    | issues _ => fault .boolType
  | _ => fault .boolType

end Rulebook.Checked
