import Rulebook.Expr.Basic
import Rulebook.Descriptor.Reading

/-!
# Expressions as JSON

The JSON form of an expression, and its validated reading. The member `kind` tells leaves from
groups, and the place of an issue inside an expression starts with it. A group must carry the
descriptor of groups.
-/

namespace Rulebook

/-! ## Writing -/

/-- The JSON form of how a value is shown. -/
def Display.toJson (d : Display) : Json :=
  .object [("text", .text d.text), ("hint", .ofText? d.hint)]

/-- The JSON form of a note. -/
def Note.toJson : Note → Json
  | .value v => v.toJson
  | .selected items => .object (items.map fun i => (i.1, i.2.toJson))

/-- How the parts of an expression are written that different readers want in different forms. -/
structure ExprStyle where
  value : Value → Json
  number : Int → Json

/-- The plain style. -/
def ExprStyle.plain : ExprStyle := ⟨Value.toJson, .int⟩

namespace ExprStyle

/-- The form of a note. -/
def note (style : ExprStyle) : Note → Json
  | .value v => style.value v
  | n => n.toJson

/-- The form of notes. -/
def notes (style : ExprStyle) (entries : Notes) : Json :=
  .object (entries.map fun e => (e.1, style.note e.2))

/-- The form of a descriptor. -/
def descriptor (style : ExprStyle) (d : Descriptor) : Json :=
  d.toJsonWith fun entries => .object (entries.map fun e => (e.1, style.value e.2))

/-- The form of an optional number. -/
def optionalNumber (style : ExprStyle) : Option Int → Json
  | none => .null
  | some n => style.number n

/-- The members that tell of a condition. -/
def leafMembers (style : ExprStyle) (c : Leaf) : List (String × Json) :=
  [("kind", .text "leaf"), ("id", style.number c.id),
    ("descriptor", (c.descriptor.map style.descriptor).getD .null),
    ("operator", .text c.operator.name), ("value", style.value c.value),
    ("raw_value", .ofText? c.rawValue), ("metadata", style.notes c.notes)]

/-- The members that tell of a group, its parts apart. -/
def groupMembers (style : ExprStyle) (g : GroupHead) : List (String × Json) :=
  [("kind", .text "group"), ("id", style.number g.id), ("descriptor", style.descriptor g.descriptor),
    ("operator", .text g.operator.name), ("value", style.value g.value),
    ("raw_value", .ofText? g.rawValue), ("metadata", style.notes g.notes),
    ("logical_operator", .text g.connective.name), ("is_subgroup", .bool g.isSubgroup),
    ("ref_rule_id", style.optionalNumber g.refRuleId)]

end ExprStyle

mutual

/-- The JSON form of an expression in a style. -/
def Expr.toJsonIn (style : ExprStyle) : Expr → Json
  | .leaf c => .object (style.leafMembers c)
  | .group head parts =>
    .object (style.groupMembers head ++ [("expressions", .array (Expr.listToJsonIn style parts))])

/-- The JSON forms of a list of expressions. -/
def Expr.listToJsonIn (style : ExprStyle) : List Expr → List Json
  | [] => []
  | e :: rest => Expr.toJsonIn style e :: Expr.listToJsonIn style rest

end

/-- The JSON form of an expression. -/
def Expr.toJson (e : Expr) : Json := e.toJsonIn .plain

/-! ## Reading -/

namespace Checked

/-- Reads notes. -/
def notes (j : Json) : Checked Notes :=
  (fun entries => entries.map fun e => (e.1, Note.value e.2)) <$> valueMap j

/-- Reads a value as it stands. -/
def anyValue (j : Json) : Checked Value := ok (Value.ofJson j)

/-- Reads a condition. -/
def leaf (j : Json) : Checked Leaf :=
  Leaf.mk <$> optional "id" 0 int j <*> optional "descriptor" none (nullable descriptor) j <*>
    optional "operator" .equal (choice Operator.ofName?) j <*> optional "value" .null anyValue j <*>
    optional "raw_value" none (nullable text) j <*> optional "metadata" [] notes j

/-- Reads a group without its parts. -/
def groupHead (j : Json) : Checked GroupHead :=
  GroupHead.mk <$> optional "id" 0 int j <*>
    optional "descriptor" (.composite .productAttribute) descriptor j <*>
    optional "operator" .equal (choice Operator.ofName?) j <*> optional "value" .null anyValue j <*>
    optional "raw_value" none (nullable text) j <*> optional "metadata" [] notes j <*>
    optional "logical_operator" .every (choice Connective.ofName?) j <*>
    optional "is_subgroup" false bool j <*> optional "ref_rule_id" none (nullable int) j

/-- A group whose descriptor stands for groups. -/
def compositeGroup (g : Group) : Checked Group :=
  if g.head.descriptor.isComposite then ok g else fault .valueError

mutual

/-- Reads an expression. -/
def expr : Json → Checked Expr
  | .object members =>
    let j := Json.object members
    match j.member? "kind" with
    | none => fault .unionTagNotFound
    | some (.text "leaf") => within (.member "leaf") (.leaf <$> leaf j)
    | some (.text "group") =>
      within (.member "group")
        ((Group.mk <$> groupHead j <*> partsAmong members).andThen fun g =>
          Group.toExpr <$> compositeGroup g)
    | some _ => fault .unionTagInvalid
  | _ => fault .modelAttributesType

/-- Reads the parts of a group among the members of its object. -/
def partsAmong : List (String × Json) → Checked (List Expr)
  | [] => ok []
  | (name, value) :: rest =>
    if name = "expressions" then within (.member name) (exprs value) else partsAmong rest

/-- Reads a list of expressions. -/
def exprs : Json → Checked (List Expr)
  | .array js => exprItems 0 js
  | _ => fault .listType

/-- Reads the expressions of a list from an index on. -/
def exprItems (index : Nat) : List Json → Checked (List Expr)
  | [] => ok []
  | j :: rest => (· :: ·) <$> (expr j).within (.item index) <*> exprItems (index + 1) rest

end

end Checked

/-- The expression is read back unchanged from its JSON form. -/
def Expr.readsBack (e : Expr) : Bool :=
  match Checked.expr e.toJson with
  | .ok back => back.toJson.render == e.toJson.render
  | .issues _ => false

end Rulebook
