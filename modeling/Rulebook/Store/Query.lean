import Rulebook.Store.Basic
import Rulebook.Text.Pattern
import Rulebook.Validation.Scalars

/-!
# Reading the store

The reads that rules need. Numbers that go to the store must fit into sixty-four bits with a sign.

A page is found by its index and its size; one row more than the page holds is looked at, to tell
whether another page follows.
-/

namespace Rulebook

open Rulebook.Checked (fitsWord)

/-- One page of a listing. -/
structure Page (α : Type) where
  items : List α
  index : Int
  size : Int
  hasNext : Bool
  deriving Repr

/-- The first `size` rows; a negative size leaves out so many rows at the end. -/
def firstRows {α : Type} (size : Int) (rows : List α) : List α :=
  if 0 ≤ size then rows.take size.toNat else rows.take (rows.length - size.natAbs)

/-- The rows from an offset on, at most `limit` of them. A negative offset counts as zero, and a
negative limit is none. -/
def window {α : Type} (offset limit : Int) (rows : List α) : List α :=
  let rest := rows.drop offset.toNat
  if limit < 0 then rest else rest.take limit.toNat

/-- The page made from the rows that were seen, at most one more than it holds. -/
def pageOfSeen {α : Type} (index size : Int) (seen : List α) : Page α :=
  ⟨firstRows size seen, index, size, decide (size < seen.length)⟩

/-- The page of a listing. -/
def pageOf {α : Type} (index size : Int) (rows : List α) : Result (Page α) :=
  -- one row more than the page holds tells whether another page follows
  if fitsWord (index * size) && fitsWord (size + 1) then
    .ok (pageOfSeen index size (window (index * size) (size + 1) rows))
  else .error .outOfRange

/-- The pages of a listing from an index on, read one after another until none follows, at most
`left` of them. -/
def readPages {α : Type} (read : Int → Result (Page α)) : Nat → Int → Result (List (Page α))
  | 0, _ => .ok []
  | left + 1, index => do
    let page ← read index
    if page.hasNext then return page :: (← readPages read left (index + 1))
    else return [page]

namespace Store

/-- The row of a number in a table. -/
def rowOf? {α : Type} (key : α → Int) (table : List α) (id : Int) : Result (Option α) :=
  if fitsWord id then .ok (table.find? fun r => key r = id) else .error .outOfRange

/-- The rule set of a number. -/
def findRuleSet (s : Store) (id : Int) : Result (Option RuleSet) := rowOf? RuleSet.id s.ruleSets id

/-- The mapped attribute of a number. -/
def findAttribute (s : Store) (id : Int) : Result (Option VariantAttribute) :=
  rowOf? VariantAttribute.id s.attributes id

/-- The catalog attribute that a mapped attribute is of. -/
def catalogOf (s : Store) (a : VariantAttribute) : Option CatalogAttribute :=
  s.catalog.find? fun c => c.id = a.catalogId

/-- The rule set of a mapped attribute. -/
def ruleSetOf (s : Store) (a : VariantAttribute) : Option RuleSet :=
  a.ruleSetId.bind fun id => s.ruleSets.find? fun r => r.id = id

/-- The mapped attribute that a value belongs to. -/
def attributeOf (s : Store) (v : VariantValue) : Option VariantAttribute :=
  s.attributes.find? fun a => a.id = v.attributeId

/-- The catalog attribute that a value belongs to. -/
def catalogOfValue (s : Store) (v : VariantValue) : Option CatalogAttribute :=
  (s.attributeOf v).bind s.catalogOf

/-- A page of the catalog, in display order. -/
def listCatalog (s : Store) (index size : Int) : Result (Page CatalogAttribute) :=
  pageOf index size (sortByPlace CatalogAttribute.place s.catalog)

/-- The values of the given numbers, in display order. -/
def findValues (s : Store) (ids : List Int) : Result (List VariantValue) :=
  if ids.all fitsWord then
    .ok (sortByPlace VariantValue.place (s.values.filter fun v => ids.contains v.id))
  else .error .outOfRange

/-- A value belongs to a catalog attribute, and its name is found by the search term if there is
one. -/
def isListed (s : Store) (catalogId : Int) (search : Option String) (v : VariantValue) : Bool :=
  (s.attributeOf v).any (fun a => a.catalogId = catalogId) &&
    (search.filter fun t => !t.isEmpty).all fun t => Text.foundBy t (v.names.name.getD "")

/-- A page of the values of a catalog attribute, over all products, in display order. -/
def listValues (s : Store) (catalogId index size : Int) (search : Option String) :
    Result (Page VariantValue) :=
  if fitsWord catalogId then
    pageOf index size
      (sortByPlace VariantValue.place (s.values.filter (s.isListed catalogId search)))
  else .error .outOfRange

end Store

end Rulebook
