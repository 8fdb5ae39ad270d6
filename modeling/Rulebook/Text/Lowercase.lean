import Rulebook.Text.LetterCase

/-!
# Lower-casing

The full lower-case form of a text: each character is replaced by its partner, the capital I with
a dot above becomes two characters, and a capital sigma that ends a word becomes the final small
sigma.

Only the sigma rule looks at neighbours, and it looks through case-ignorable characters.
-/

namespace Rulebook.Text

/-- The first character that is not looked through is a cased one. -/
def nextIsCased : List Char → Bool
  | [] => false
  | c :: rest => if isCaseIgnorable c then nextIsCased rest else isCased c

/-- The capital sigma, whose lower-case form depends on its place in the word. -/
def capitalSigma : Char := Char.ofNat 0x3A3

/-- The capital I with a dot above, whose lower-case form keeps the dot as a combining mark. -/
def dottedCapitalI : Char := Char.ofNat 0x130

/-- Lower-case form of one character between the reversed text before it and the text after it. -/
def lowerChar (before : List Char) (c : Char) (after : List Char) : List Char :=
  if c = capitalSigma then
    [if nextIsCased before && !nextIsCased after then Char.ofNat 0x3C2 else Char.ofNat 0x3C3]
  else if c = dottedCapitalI then ['i', Char.ofNat 0x307]
  else [smallLetter c]

/-- Lower-case form of the rest of a text, given the reversed text before it. -/
def lowerFrom (before : List Char) : List Char → List Char
  | [] => []
  | c :: after => lowerChar before c after ++ lowerFrom (c :: before) after

/-- The lower-case form of a text. -/
def lowercase (s : String) : String := String.ofList (lowerFrom [] s.toList)

/-- The ASCII capitals fold to their small letters and every other character stays. -/
def asciiLower (c : Char) : Char :=
  if 0x41 ≤ c.toNat && c.toNat ≤ 0x5A then Char.ofNat (c.toNat + 0x20) else c

end Rulebook.Text
