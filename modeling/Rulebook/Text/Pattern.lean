import Rulebook.Text.Lowercase

/-!
# Search patterns

Matching of a name against a search pattern: `%` stands for any run of characters, `_` for any one
character, every other character for itself, and the letters of the ASCII alphabet match in either
case. There is no escape character.
-/

namespace Rulebook.Text

/-- A part of a search pattern. -/
inductive PatternPart where
  /-- Stands for any run of characters, also the empty one. -/
  | anyRun
  /-- Stands for any one character. -/
  | anyChar
  /-- Stands for itself. -/
  | exact (c : Char)
  deriving DecidableEq, Repr

/-- The part that a pattern character denotes. -/
def PatternPart.ofChar (c : Char) : PatternPart :=
  if c = '%' then .anyRun else if c = '_' then .anyChar else .exact c

/-- Some end of the list satisfies `p`, from the whole list to the empty one. -/
def anyTail (p : List Char → Bool) : List Char → Bool
  | [] => p []
  | c :: rest => p (c :: rest) || anyTail p rest

/-- One list of characters occurs in another. -/
def occursIn (part whole : List Char) : Bool := anyTail (fun rest => part.isPrefixOf rest) whole

/-- The whole text fits the pattern. -/
def fits : List PatternPart → List Char → Bool
  | [], text => text.isEmpty
  | .anyRun :: parts, text => anyTail (fits parts) text
  | .anyChar :: parts, text =>
    match text with
    | [] => false
    | _ :: rest => fits parts rest
  | .exact c :: parts, text =>
    match text with
    | [] => false
    | d :: rest => d == c && fits parts rest

/-- The characters before the first NUL, each ASCII capital folded. -/
def searchForm (s : String) : List Char :=
  (s.toList.takeWhile (· ≠ Char.ofNat 0)).map asciiLower

/-- A name is found by a search term when it fits the term with anything around it. -/
def foundBy (term name : String) : Bool :=
  fits ((searchForm (String.ofList ('%' :: (term.toList ++ ['%'])))).map .ofChar) (searchForm name)

end Rulebook.Text
