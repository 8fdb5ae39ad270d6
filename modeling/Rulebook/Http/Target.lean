/-!
# Request targets

The path and the query of a request. Both are written with escapes of two hexadecimal digits after
a percent sign, each for one byte of a character.
-/

namespace Rulebook.Http

/-! ## Escapes -/

/-- The value of a hexadecimal digit. -/
def hexDigit? (c : Char) : Option Nat :=
  if '0' ≤ c && c ≤ '9' then some (c.toNat - 0x30)
  else if 'a' ≤ c && c ≤ 'f' then some (c.toNat - 0x57)
  else if 'A' ≤ c && c ≤ 'F' then some (c.toNat - 0x37)
  else none

/-- The byte that two hexadecimal digits in front stand for. -/
def escapedByte? : List Char → Option UInt8
  | a :: b :: _ => do return UInt8.ofNat (16 * (← hexDigit? a) + (← hexDigit? b))
  | _ => none

/-- The bytes that an escaped text stands for. A percent sign without two digits after it stands for
itself. -/
def unescapedBytes : List Char → List UInt8
  | [] => []
  | c :: rest =>
    let bytes := unescapedBytes rest
    if c = '%' then
      match escapedByte? rest with
      -- the two digits stand for themselves in `bytes`, one byte each
      | some b => b :: bytes.drop 2
      | none => 0x25 :: bytes
    else (String.singleton c).toUTF8.toList ++ bytes

/-- The byte continues a character. -/
def isContinuation (b : UInt8) : Bool := 0x80 ≤ b && b < 0xC0

/-- How many bytes follow the first byte of a character; none for a byte that starts no character of
several bytes. -/
def followers (b : UInt8) : Nat :=
  if 0xC2 ≤ b && b < 0xE0 then 1
  else if 0xE0 ≤ b && b < 0xF0 then 2
  else if 0xF0 ≤ b && b < 0xF5 then 3
  else 0

/-- The second byte may follow the first one. The bounds leave out what has a shorter form, the
surrogates and what lies past the last character. -/
def maySecond (first second : UInt8) : Bool :=
  let least : UInt8 := if first = 0xE0 then 0xA0 else if first = 0xF0 then 0x90 else 0x80
  let greatest : UInt8 := if first = 0xED then 0x9F else if first = 0xF4 then 0x8F else 0xBF
  least ≤ second && second ≤ greatest

/-- The character that starts at the first byte, and how many bytes it has. A byte that starts no
character stands for the replacement character, and so does a character that is cut short, with
all of its bytes that are there. -/
def firstChar (b : UInt8) (rest : List UInt8) : Char × Nat :=
  if b < 0x80 then (Char.ofNat b.toNat, 1)
  else
    let count := followers b
    let more := match rest.take count with
      | [] => []
      | second :: others =>
        if maySecond b second then second :: others.takeWhile isContinuation else []
    if count ≠ 0 && more.length = count then
      -- the first byte gives 5, 4 or 3 bits, every other one 6
      let lead := b.toNat % (0x40 >>> count)
      (Char.ofNat (more.foldl (fun n x => n * 64 + (x.toNat - 0x80)) lead), count + 1)
    else (Char.ofNat 0xFFFD, more.length + 1)

/-- The characters that bytes stand for; the first part counts the bytes to pass over. -/
def charsOfBytes : Nat → List UInt8 → List Char
  | _, [] => []
  | skip + 1, _ :: rest => charsOfBytes skip rest
  | 0, b :: rest =>
    let (c, count) := firstChar b rest
    c :: charsOfBytes (count - 1) rest

/-- The text that an escaped text stands for. -/
def unescape (cs : List Char) : String := String.ofList (charsOfBytes 0 (unescapedBytes cs))

/-! ## Parts -/

/-- The parts of a list between the places of a mark. -/
def splitAt (mark : Char) : List Char → List (List Char)
  | [] => [[]]
  | c :: rest =>
    if c = mark then [] :: splitAt mark rest
    else match splitAt mark rest with
      | [] => [[c]]
      | part :: parts => (c :: part) :: parts

/-- One item of a query: a name and a value, which may be missing. A plus sign stands for a
blank. -/
def queryItem (cs : List Char) : String × String :=
  let plain (part : List Char) : String := unescape (part.map fun c => if c = '+' then ' ' else c)
  (plain (cs.takeWhile (· ≠ '=')), plain ((cs.dropWhile (· ≠ '=')).drop 1))

/-- The path and the query of a request. -/
structure Target where
  path : String
  query : List (String × String)
  deriving Repr

/-- Reads a target; what follows a number sign does not count. -/
def Target.read (s : String) : Target :=
  let cs := s.toList.takeWhile (· ≠ '#')
  let query := (cs.dropWhile (· ≠ '?')).drop 1
  ⟨unescape (cs.takeWhile (· ≠ '?')), ((splitAt '&' query).filter (!·.isEmpty)).map queryItem⟩

/-- The last value of a name in the query. -/
def Target.value? (t : Target) (name : String) : Option String := t.query.reverse.lookup name

/-- The parts of the path between its slashes. -/
def Target.segments (t : Target) : List String :=
  (splitAt '/' t.path.toList).map String.ofList

end Rulebook.Http
