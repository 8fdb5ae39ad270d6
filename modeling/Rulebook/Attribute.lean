import Rulebook.Compile.Basic
import Rulebook.Enrichment
import Rulebook.Evaluation.Run

/-!
# Attribute rules

Whether an attribute of a product is offered, given the values selected for its other attributes.
Each attribute of the catalog is one kind of condition: which of its values are selected.

An attribute without a rule set is offered, and so is one whose rule set is missing, not active or
without conditions. Otherwise the rule set decides, and its connective may be replaced for the
occasion.
-/

namespace Rulebook.Attribute

/-- The processor key of conditions on selected values. -/
def processorKey : String := "variant_value"

/-- The category of the kinds of conditions on selected values. -/
def groupKey : String := "catalog.product_attributes"

/-! ## Kinds of conditions -/

/-- The kind of condition that a catalog attribute contributes. -/
def descriptorOf (l : Localizer) (language : String) (a : CatalogAttribute) : Descriptor where
  scope := .productAttribute
  name := "variant" ++ toString a.id
  displayName := some (l.localizedName a.names (some language))
  groupKey := some groupKey
  kind := .intArray
  operators := [.anyIn, .noneIn, .allIn, .notAllIn]
  selectList := some (.remote VariantOptions.dataSource true)
  processor := processorKey
  metadata := [("parent_id", .int a.id), ("value_type", .text "simple")]
  isValid := true

/-- The pages of the catalog. Each page but the last holds some rows, so one page for each row and
one more suffice. -/
def catalogPages (s : Store) (pageSize : Int) : Result (List (Page CatalogAttribute)) :=
  readPages (fun index => s.listCatalog index pageSize) (s.catalog.length + 1) 0

/-- The kinds of conditions that the catalog contributes. -/
def loadDescriptors (s : Store) (l : Localizer) (language : String) (pageSize : Int) :
    Result (List Descriptor) := do
  let pages ← catalogPages s pageSize
  return (pages.flatMap (·.items)).map (descriptorOf l language)

/-! ## Deciding -/

/-- The selected values by catalog attribute. -/
abbrev Selection := List (Int × Value)

/-- The values selected for a catalog attribute, as a list. -/
def selectedFor (selection : Selection) (catalogId : Int) : Result Value :=
  match selection.lookup catalogId with
  | none => .ok (.list [])
  | some v => do return .list (← v.parts)

/-- Compares the values selected for the catalog attribute of a condition with the values of the
condition. A condition that is about no attribute does not hold. -/
def processor (selection : Selection) : Processor := fun c =>
  match VariantOptions.parentOf c with
  | none => .ok false
  | some parent => do
    let selected ← selectedFor selection (← parent.toInt)
    return c.operator.holds selected c.value

/-- The processors of the scope. -/
def processors (selection : Selection) : Registry Processor := [(processorKey, processor selection)]

/-- The group with another connective. -/
def withConnective (override : Option Connective) (g : Group) : Group :=
  match override with
  | none => g
  | some connective => { g with head := { g.head with connective := connective } }

/-- Decides a compiled rule set for a selection. Without one, and without conditions, it holds. -/
def decide (selection : Selection) (override : Option Connective) (group : Option Group) :
    Result Bool :=
  match group with
  | none => .ok true
  | some g =>
    if g.parts.isEmpty then .ok true
    else ((withConnective override g).run (processors selection)).outcome

/-- Whether an attribute is offered. -/
def matches? (c : Compiler) (a : Option VariantAttribute) (selection : Selection)
    (override : Option Connective) : Outcome Bool :=
  match a.bind (·.ruleSetId) with
  | none => Outcome.pure true
  | some id => do
    let group ← c.compile false id
    Outcome.ofResult (decide selection override group)

/-- The rule set of an attribute for display. An attribute without one gets a group without
parts. -/
def displayGroup (c : Compiler) (annotator : Annotator) (a : VariantAttribute)
    (includeHidden : Bool) : Outcome (Option Group) :=
  match a.ruleSetId with
  | none => Outcome.pure (some (.unconstrained c.visitor.scope))
  | some id => do
    match ← c.compile includeHidden id with
    | none => return none
    | some g => return some (← Outcome.ofResult (annotator.annotate none g).toResult)

end Rulebook.Attribute
