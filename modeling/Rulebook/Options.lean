import Rulebook.Store.Query
import Rulebook.Expr.Reading
import Rulebook.Value.Whole

/-!
# Options

The values that an editor offers for a condition, and the names of the values already selected. An
options provider serves the data sources it matches.

`VariantOptions` offers the values of a catalog attribute: the text of an option is the localized
name of the value, and its hint the localized name of the catalog attribute.
-/

namespace Rulebook

/-- Why options are wanted. -/
inductive OptionsReason where
  /-- To offer them. -/
  | all
  /-- To show the values that a condition holds. -/
  | selected
  deriving DecidableEq, Repr

/-- The name of a reason. -/
def OptionsReason.name : OptionsReason → String
  | all => "all_options"
  | selected => "selected_display_names"

/-- The reason of a name. -/
def OptionsReason.ofName? (s : String) : Option OptionsReason :=
  [OptionsReason.all, .selected].find? fun r => r.name == s

/-- A request for the options of a condition. -/
structure OptionsRequest where
  reason : OptionsReason
  condition : Leaf
  pageIndex : Int
  pageSize : Int
  searchTerm : Option String
  language : Option String

/-- A page of options. -/
structure OptionsPage where
  options : List SelectOption
  hasMore : Bool

/-- Provides options for the data sources that it matches. -/
structure OptionsProvider where
  serves : String → Bool
  options : OptionsRequest → Result OptionsPage

/-- The size of a page that no listing fills. -/
def unboundedPageSize : Int := 0x7FFFFFFF

/-- The data source of the values of a condition, if they come from one. -/
def Leaf.dataSource? (c : Leaf) : Option String :=
  match c.descriptor.bind (·.selectList) with
  | some (.remote source _) => some source
  | _ => none

/-- The settings of a request that come from outside, besides the condition. -/
structure OptionsQuery where
  reason : OptionsReason
  pageIndex : Int
  pageSize : Int
  searchTerm : Option String
  language : Option String

/-- Reads a query. -/
def Checked.optionsQuery (j : Json) : Checked OptionsQuery :=
  OptionsQuery.mk <$> required "reason" (choice OptionsReason.ofName?) j <*>
    optional "page_index" 0 (intBetween (some 0) none) j <*>
    optional "page_size" 100 (intBetween (some 1) none) j <*>
    optional "search_term" none (nullable text) j <*> optional "language" none (nullable text) j

/-- The request that a query makes about a condition. -/
def OptionsQuery.about (q : OptionsQuery) (c : Leaf) : OptionsRequest :=
  ⟨q.reason, c, q.pageIndex, q.pageSize, q.searchTerm, q.language⟩

/-! ## Values of a catalog attribute -/

namespace VariantOptions

/-- The data source of the values of a catalog attribute. -/
def dataSource : String := "variant_value"

/-- The numbers of the values that a condition holds; what is no number is passed over. -/
def valueIds : List Value → Result (List Int)
  | [] => .ok []
  | v :: rest =>
    match v.toInt with
    | .ok n => do return n :: (← valueIds rest)
    | .error .unreadable => valueIds rest
    | .error .wrongKind => valueIds rest
    | .error f => .error f

/-- The option of a value. -/
def optionOf (s : Store) (l : Localizer) (language : Option String) (v : VariantValue) :
    SelectOption where
  value := toString v.id
  text := l.localizedName v.names language
  hint := (s.catalogOfValue v).map fun a => l.localizedName a.names language

/-- The options of the values that a condition holds. -/
def selectedOptions (s : Store) (l : Localizer) (request : OptionsRequest) : Result OptionsPage := do
  let values ← s.findValues (← valueIds request.condition.value.listed)
  return ⟨values.map (optionOf s l request.language), false⟩

/-- The catalog attribute that a condition is about, as its descriptor tells. -/
def parentOf (c : Leaf) : Option Value :=
  match c.descriptor.bind (·.metadata? "parent_id") with
  | some .null => none
  | found => found

/-- A page of the options of the catalog attribute that a condition is about. -/
def allOptions (s : Store) (l : Localizer) (request : OptionsRequest) : Result OptionsPage :=
  match parentOf request.condition with
  | none => .ok ⟨[], false⟩
  | some parent => do
    let page ← s.listValues (← parent.toInt) request.pageIndex request.pageSize request.searchTerm
    return ⟨page.items.map (optionOf s l request.language), page.hasNext⟩

/-- The provider of the values of a catalog attribute. -/
def provider (s : Store) (l : Localizer) : OptionsProvider where
  serves := fun source => source == dataSource
  options := fun request =>
    match request.reason with
    | .selected => selectedOptions s l request
    | .all => allOptions s l request

end VariantOptions

end Rulebook
