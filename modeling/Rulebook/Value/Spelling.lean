import Rulebook.Value.Basic
import Rulebook.Number.Reading
import Rulebook.Text.Quoted

/-!
# Spelling of values

The text of a value, which the text operators compare. A text is its own text; inside a collection
it is quoted. A whole number of more than `digitLimit` digits has no text, and neither has a
collection that holds one.
-/

namespace Rulebook.Value

open Rulebook.Number Rulebook.Time Rulebook.Text

/-- The text of a whole number. -/
def intText? (n : Int) : Option String :=
  if digitLimit < (decimalDigits n.natAbs).length then none else some (toString n)

/-- The text of a truth value. -/
def boolText (b : Bool) : String := if b then "True" else "False"

/-- Parts of a collection between its brackets. -/
def enclosed (opening closing : String) (parts : List String) : String :=
  opening ++ ", ".intercalate parts ++ closing

/-- A tuple of one item keeps a comma after it. -/
def tupleText : List String → String
  | [part] => "(" ++ part ++ ",)"
  | parts => enclosed "(" ")" parts

/-- A set, the empty one having a form of its own. -/
def setText (parts : List String) : String :=
  if parts.isEmpty then "set()" else enclosed "\x7b" "\x7d" parts

mutual

/-- The form that a value takes inside the text of a collection. -/
def innerText? : Value → Option String
  | .null => some "None"
  | .bool b => some (boolText b)
  | .int n => intText? n
  | .double d => some d.text
  | .sharedNan _ => some Double.nan.text
  | .text s => some (quoted s)
  | .moment m => some m.constructorText
  | .list items => (innerTexts? items).map (enclosed "[" "]")
  | .tuple items => (innerTexts? items).map tupleText
  | .set items => (innerTexts? items).map setText
  | .dict entries => (entryTexts? entries).map (enclosed "\x7b" "\x7d")

/-- The forms of the items of a collection. -/
def innerTexts? : List Value → Option (List String)
  | [] => some []
  | x :: rest => do return (← innerText? x) :: (← innerTexts? rest)

/-- The forms of the entries of a dictionary. -/
def entryTexts? : List (Value × Value) → Option (List String)
  | [] => some []
  | (k, v) :: rest => do
    return ((← innerText? k) ++ ": " ++ (← innerText? v)) :: (← entryTexts? rest)

end

/-- The text of a value. -/
def text? : Value → Option String
  | .text s => some s
  | .moment m => some (m.text ' ')
  | v => v.innerText?

end Rulebook.Value
