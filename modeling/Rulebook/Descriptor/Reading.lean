import Rulebook.Descriptor.Basic
import Rulebook.Validation.Scalars
import Rulebook.Value.Plain

/-!
# Descriptors as JSON

The JSON form of a descriptor, and its validated reading. Fields may be missing where a descriptor
has a value of its own for them; without operators the kind of its values decides them.
-/

namespace Rulebook

/-! ## Writing -/

/-- The JSON form of an option of an editor. -/
def SelectOption.toJson (o : SelectOption) : Json :=
  .object [("value", .text o.value), ("text", .text o.text), ("hint", .ofText? o.hint)]

/-- The JSON form of a select list. -/
def SelectList.toJson : SelectList → Json
  | .fixed options multiple =>
    .object [("kind", .text "local"), ("options", .array (options.map SelectOption.toJson)),
      ("multiple", .bool multiple)]
  | .remote source multiple =>
    .object [("kind", .text "remote"), ("data_source", .text source), ("multiple", .bool multiple)]

/-- The JSON form of a map of values. -/
def metadataJson (entries : List (String × Value)) : Json :=
  .object (entries.map fun e => (e.1, e.2.toJson))

/-- The JSON form of a descriptor, given the form of its metadata. -/
def Descriptor.toJsonWith (writeMetadata : List (String × Value) → Json) (d : Descriptor) : Json :=
  .object [("scope", .text d.scope.name), ("name", .text d.name),
    ("display_name", .ofText? d.displayName), ("group_key", .ofText? d.groupKey),
    ("rule_type", .text d.kind.name),
    ("operators", .array (d.operators.map fun o => .text o.name)),
    ("select_list", (d.selectList.map SelectList.toJson).getD .null),
    ("processor", .text d.processor), ("metadata", writeMetadata d.metadata),
    ("is_valid", .bool d.isValid)]

/-- The JSON form of a descriptor. -/
def Descriptor.toJson (d : Descriptor) : Json := d.toJsonWith metadataJson

/-! ## Reading -/

namespace Checked

/-- Reads an object, member by member. -/
def model {α : Type} (read : Json → Checked α) : Json → Checked α
  | .object members => read (.object members)
  | _ => fault .modelType

/-- Reads a map of values. -/
def valueMap : Json → Checked (List (String × Value))
  | .object members => ok (members.map fun m => (m.1, Value.ofJson m.2))
  | _ => fault .dictType

/-- Reads an option of an editor. -/
def selectOption : Json → Checked SelectOption :=
  model fun j => SelectOption.mk <$> required "value" text j <*> required "text" text j <*>
    optional "hint" none (nullable text) j

/-- Reads a list, each item by the given reading. -/
def list {α : Type} (read : Json → Checked α) : Json → Checked (List α)
  | .array js => items read 0 js
  | _ => fault .listType

/-- Reads a select list by the kind it names. -/
def selectList (j : Json) : Checked SelectList :=
  match j with
  | .object _ =>
    match j.member? "kind" with
    | none => fault .unionTagNotFound
    | some (.text "local") =>
      within (.member "local") (SelectList.fixed <$> optional "options" [] (list selectOption) j <*>
        optional "multiple" false bool j)
    | some (.text "remote") =>
      within (.member "remote") (SelectList.remote <$> required "data_source" text j <*>
        optional "multiple" false bool j)
    | some _ => fault .unionTagInvalid
  | _ => fault .modelAttributesType

/-- Reads a list of operators. -/
def operators : Json → Checked (List Operator)
  | .array js => items (choice Operator.ofName?) 0 js
  | _ => fault .tupleType

/-- A value that counts as nothing: `null`, false, zero, and what is empty. -/
def isNothing : Json → Bool
  | .null => true
  | .bool b => !b
  | .int n => n == 0
  | .double d => d == .negativeZero || d == .finite 0
  | .text s => s.isEmpty
  | .array js => js.isEmpty
  | .object members => members.isEmpty

/-- The operators that a descriptor without any gets from the kind of its values, which must then be
a known one. -/
def defaultOperators (j : Json) : Checked (List Operator) :=
  match j.member? "rule_type" with
  | none => ok ValueKind.boolean.operators
  | some (.text s) =>
    match ValueKind.ofName? s with
    | some k => ok k.operators
    | none => fault .valueError
  | some _ => fault .valueError

/-- Reads a descriptor whose operators are read as given. -/
def descriptorWith (readOperators : Checked (List Operator)) (j : Json) : Checked Descriptor :=
  Descriptor.mk <$> required "scope" (choice Scope.ofName?) j <*>
    required "name" (longText 1) j <*>
    optional "display_name" none (nullable text) j <*>
    optional "group_key" none (nullable text) j <*>
    optional "rule_type" .boolean (choice ValueKind.ofName?) j <*>
    readOperators <*>
    optional "select_list" none (nullable selectList) j <*>
    required "processor" text j <*>
    optional "metadata" [] valueMap j <*>
    optional "is_valid" true bool j

/-- Reads a descriptor. -/
def descriptor : Json → Checked Descriptor :=
  model fun j =>
    if (j.member? "operators").all isNothing then
      (defaultOperators j).andThen fun os => descriptorWith (ok os) j
    else descriptorWith (optional "operators" [] operators j) j

end Checked

end Rulebook
