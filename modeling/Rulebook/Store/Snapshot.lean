import Rulebook.Store.Basic
import Rulebook.Descriptor.Reading

/-!
# Snapshots

The JSON form of a store: an object with a list of rows for each table. Tables, and fields that have
a value of their own, may be missing.
-/

namespace Rulebook

/-! ## Writing -/

/-- The JSON form of a number that may be missing. -/
def jsonOfNumber? : Option Int → Json
  | none => .null
  | some n => .int n

/-- The JSON form of a rule. -/
def Rule.toJson (r : Rule) : Json :=
  .object [("id", .int r.id), ("rule_type", .text r.ruleType), ("operator", .text r.operator),
    ("value", .ofText? r.value), ("display_order", .int r.displayOrder)]

/-- The JSON form of a rule set. -/
def RuleSet.toJson (s : RuleSet) : Json :=
  .object [("id", .int s.id), ("name", .ofText? s.name), ("scope", .text s.scope),
    ("logical_operator", .text s.logicalOperator), ("is_active", .bool s.isActive),
    ("is_subgroup", .bool s.isSubgroup), ("rules", .array (s.rules.map Rule.toJson))]

/-- The JSON form of a catalog attribute. -/
def CatalogAttribute.toJson (a : CatalogAttribute) : Json :=
  .object [("id", .int a.id), ("name", .ofText? a.names.name),
    ("display_order", .int a.displayOrder), ("localized_names", a.names.localizedNames)]

/-- The JSON form of a mapped attribute. -/
def VariantAttribute.toJson (a : VariantAttribute) : Json :=
  .object [("id", .int a.id), ("product_id", .int a.productId),
    ("product_attribute_id", .int a.catalogId), ("rule_set_id", jsonOfNumber? a.ruleSetId),
    ("display_order", .int a.displayOrder)]

/-- The JSON form of a value. -/
def VariantValue.toJson (v : VariantValue) : Json :=
  .object [("id", .int v.id), ("attribute_id", .int v.attributeId), ("name", .ofText? v.names.name),
    ("display_order", .int v.displayOrder), ("localized_names", v.names.localizedNames)]

/-- The JSON form of a store. -/
def Store.toJson (s : Store) : Json :=
  .object [("catalog", .array (s.catalog.map CatalogAttribute.toJson)),
    ("rule_sets", .array (s.ruleSets.map RuleSet.toJson)),
    ("attributes", .array (s.attributes.map VariantAttribute.toJson)),
    ("values", .array (s.values.map VariantValue.toJson))]

/-! ## Reading -/

namespace Checked

/-- Reads a text that may be `null` or missing. -/
def optionalText (name : String) (j : Json) : Checked (Option String) :=
  optional name none (nullable text) j

/-- Reads a rule. -/
def rule : Json → Checked Rule :=
  model fun j =>
    Rule.mk <$> required "id" int j <*> required "rule_type" text j <*>
      required "operator" text j <*> optionalText "value" j <*> optional "display_order" 0 int j

/-- Reads a rule set. -/
def ruleSet : Json → Checked RuleSet :=
  model fun j =>
    RuleSet.mk <$> required "id" int j <*> optionalText "name" j <*> required "scope" text j <*>
      optional "logical_operator" "and" text j <*> optional "is_active" true bool j <*>
      optional "is_subgroup" false bool j <*> optional "rules" [] (list rule) j

/-- Reads the names of a row. -/
def named (j : Json) : Checked Named :=
  Named.mk <$> (some <$> required "name" text j) <*> optional "localized_names" .null ok j

/-- Reads a catalog attribute. -/
def catalogAttribute : Json → Checked CatalogAttribute :=
  model fun j =>
    CatalogAttribute.mk <$> required "id" int j <*> optional "display_order" 0 int j <*> named j

/-- Reads a mapped attribute. -/
def variantAttribute : Json → Checked VariantAttribute :=
  model fun j =>
    VariantAttribute.mk <$> required "id" int j <*> required "product_id" int j <*>
      required "product_attribute_id" int j <*> optional "rule_set_id" none (nullable int) j <*>
      optional "display_order" 0 int j

/-- Reads a value. -/
def variantValue : Json → Checked VariantValue :=
  model fun j =>
    VariantValue.mk <$> required "id" int j <*> required "attribute_id" int j <*>
      optional "display_order" 0 int j <*> named j

/-- Reads a store. -/
def store : Json → Checked Store :=
  model fun j =>
    Store.mk <$> optional "catalog" [] (list catalogAttribute) j <*>
      optional "rule_sets" [] (list ruleSet) j <*>
      optional "attributes" [] (list variantAttribute) j <*>
      optional "values" [] (list variantValue) j

end Checked

end Rulebook
