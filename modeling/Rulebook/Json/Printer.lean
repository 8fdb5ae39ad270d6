import Rulebook.Json.Basic
import Rulebook.Number.Shortest
import Rulebook.Text.Quoted

/-!
# Writing JSON

Two layouts: on one line with a blank after each comma and colon, and over several lines with two
blanks for each level. Texts are written with every character beyond ASCII escaped, or with only
those characters escaped that must be.
-/

namespace Rulebook.Json

open Rulebook.Number Rulebook.Text

/-- How a value is laid out. -/
structure Layout where
  /-- Escape every character beyond ASCII. -/
  asciiOnly : Bool
  /-- One member or item a line. -/
  multiline : Bool

/-- One line, ASCII only. -/
def Layout.line : Layout := ⟨true, false⟩

/-- Several lines, with characters beyond ASCII as they are. -/
def Layout.lines : Layout := ⟨false, true⟩

/-- An escape by code unit. -/
def unitEscape (n : Nat) : List Char := '\\' :: 'u' :: hexDigits 4 n

/-- The escapes of a character by its one or two code units. -/
def unitEscapes (c : Char) : List Char :=
  let n := c.toNat
  if n < 0x10000 then unitEscape n
  else unitEscape (0xD800 + (n - 0x10000) / 0x400) ++ unitEscape (0xDC00 + (n - 0x10000) % 0x400)

/-- One character inside the quotes of a text. -/
def charText (asciiOnly : Bool) (c : Char) : List Char :=
  if c == '"' || c == '\\' then ['\\', c]
  else if c == '\n' then ['\\', 'n']
  else if c == '\r' then ['\\', 'r']
  else if c == '\t' then ['\\', 't']
  else if c == Char.ofNat 8 then ['\\', 'b']
  else if c == Char.ofNat 12 then ['\\', 'f']
  else if c.toNat < 0x20 || (asciiOnly && 0x7E < c.toNat) then unitEscapes c
  else [c]

/-- A text between its quotes. -/
def quotedText (asciiOnly : Bool) (s : String) : String :=
  String.ofList ('"' :: (s.toList.flatMap (charText asciiOnly) ++ ['"']))

/-- The text of a double; the numbers that are not finite are written as names. -/
def doubleText : Double → String
  | .nan => "NaN"
  | .infinity negative => if negative then "-Infinity" else "Infinity"
  | d => d.text

/-- Parts between brackets, laid out at the given level. -/
def bracketed (layout : Layout) (level : Nat) (opening closing : String) (parts : List String) :
    String :=
  if parts.isEmpty then opening ++ closing
  else if layout.multiline then
    let gap (n : Nat) : String := "\n" ++ String.ofList (List.replicate (2 * n) ' ')
    opening ++ gap (level + 1) ++ ("," ++ gap (level + 1)).intercalate parts ++ gap level ++ closing
  else opening ++ ", ".intercalate parts ++ closing

mutual

/-- Writes a value at the given level. -/
def write (layout : Layout) (level : Nat) : Json → String
  | .null => "null"
  | .bool b => if b then "true" else "false"
  | .int n => toString n
  | .double d => doubleText d
  | .text s => quotedText layout.asciiOnly s
  | .array items => bracketed layout level "[" "]" (writeItems layout (level + 1) items)
  | .object members =>
    bracketed layout level "\x7b" "\x7d" (writeMembers layout (level + 1) members)

/-- Writes the items of an array. -/
def writeItems (layout : Layout) (level : Nat) : List Json → List String
  | [] => []
  | item :: rest => write layout level item :: writeItems layout level rest

/-- Writes the members of an object. -/
def writeMembers (layout : Layout) (level : Nat) : List (String × Json) → List String
  | [] => []
  | (name, value) :: rest =>
    (quotedText layout.asciiOnly name ++ ": " ++ write layout level value) ::
      writeMembers layout level rest

end

/-- The value on one line, in ASCII. -/
def render (value : Json) : String := value.write .line 0

/-- The value over several lines. -/
def renderLines (value : Json) : String := value.write .lines 0

end Rulebook.Json
