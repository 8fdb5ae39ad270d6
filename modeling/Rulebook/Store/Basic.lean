import Rulebook.Localization
import Rulebook.Text.Quoted
import Rulebook.Failure

/-!
# Stored rows

The tables of the store: rule sets with their rules, the catalog of attributes, the attributes
mapped onto products, and their values. References between rows are not checked, so a row that is
referred to may be missing.

Rows are told apart by their numbers. Where rows are listed they come in display order, rows of the
same order by number.
-/

namespace Rulebook

/-- The rule type of a rule that refers to another rule set. -/
def groupRuleType : String := "group"

/-- A stored rule: a condition, or a reference to a rule set. -/
structure Rule where
  id : Int
  ruleType : String
  operator : String
  value : Option String
  displayOrder : Int
  deriving DecidableEq, Repr, Inhabited

/-- A stored rule set. -/
structure RuleSet where
  id : Int
  name : Option String
  scope : String
  logicalOperator : String
  isActive : Bool
  isSubgroup : Bool
  rules : List Rule
  deriving DecidableEq, Repr, Inhabited

/-- An attribute of the catalog, such as colour or size. -/
structure CatalogAttribute where
  id : Int
  displayOrder : Int
  names : Named
  deriving Repr, Inhabited

/-- An attribute mapped onto a product. It is offered only if its rule set holds. -/
structure VariantAttribute where
  id : Int
  productId : Int
  catalogId : Int
  ruleSetId : Option Int
  displayOrder : Int
  deriving DecidableEq, Repr, Inhabited

/-- A value that can be selected for a mapped attribute. -/
structure VariantValue where
  id : Int
  attributeId : Int
  displayOrder : Int
  names : Named
  deriving Repr, Inhabited

/-! ## Display order -/

/-- The first place comes no later than the second. -/
def inOrder (a b : Int × Int) : Bool := a.1 < b.1 || (a.1 == b.1 && a.2 ≤ b.2)

/-- Rows in the order of their places. -/
def sortByPlace {α : Type} (place : α → Int × Int) (rows : List α) : List α :=
  rows.mergeSort fun a b => inOrder (place a) (place b)

/-- Where a rule stands among the rules of its set. -/
def Rule.place (r : Rule) : Int × Int := (r.displayOrder, r.id)

/-- Where an attribute stands in the catalog. -/
def CatalogAttribute.place (a : CatalogAttribute) : Int × Int := (a.displayOrder, a.id)

/-- Where a value stands in listings. -/
def VariantValue.place (v : VariantValue) : Int × Int := (v.displayOrder, v.id)

/-- The rules of a set in display order. -/
def RuleSet.orderedRules (s : RuleSet) : List Rule := sortByPlace Rule.place s.rules

/-- The rule refers to another rule set. -/
def Rule.isReference (r : Rule) : Bool := r.ruleType == groupRuleType

/-! ## Short descriptions -/

/-- A short description of a rule. -/
def Rule.summary (r : Rule) : String :=
  "<Rule " ++ toString r.id ++ " " ++ r.ruleType ++ " " ++ r.operator ++ " " ++
    quotedOrNone r.value ++ ">"

/-- A short description of a rule set. -/
def RuleSet.summary (s : RuleSet) : String :=
  "<RuleSet " ++ toString s.id ++ " scope=" ++ s.scope ++ ">"

/-- A short description of a catalog attribute. -/
def CatalogAttribute.summary (a : CatalogAttribute) : String :=
  "<ProductAttribute " ++ a.names.name.getD "" ++ ">"

/-- A short description of a mapped attribute. -/
def VariantAttribute.summary (a : VariantAttribute) : String :=
  "<ProductVariantAttribute " ++ toString a.id ++ " product=" ++ toString a.productId ++ ">"

/-- A short description of a value. -/
def VariantValue.summary (v : VariantValue) : String :=
  "<ProductVariantAttributeValue " ++ v.names.name.getD "" ++ ">"

/-! ## The store -/

/-- The tables. -/
structure Store where
  catalog : List CatalogAttribute
  ruleSets : List RuleSet
  attributes : List VariantAttribute
  values : List VariantValue
  deriving Repr, Inhabited

namespace Store

/-- A store without rows. -/
def empty : Store := ⟨[], [], [], []⟩

/-- Puts a row into a table, in the place of the row of the same number. -/
def putRow {α : Type} (key : α → Int) (row : α) (table : List α) : List α :=
  if table.any fun r => key r = key row then
    table.map fun r => if key r = key row then row else r
  else table ++ [row]

/-- Takes the row of a number out of a table. -/
def dropRow {α : Type} (key : α → Int) (id : Int) (table : List α) : List α :=
  table.filter fun r => key r ≠ id

/-- Puts every row of another store into the store. -/
def putAll (s more : Store) : Store where
  catalog := more.catalog.foldl (fun t r => putRow CatalogAttribute.id r t) s.catalog
  ruleSets := more.ruleSets.foldl (fun t r => putRow RuleSet.id r t) s.ruleSets
  attributes := more.attributes.foldl (fun t r => putRow VariantAttribute.id r t) s.attributes
  values := more.values.foldl (fun t r => putRow VariantValue.id r t) s.values

end Store

end Rulebook
