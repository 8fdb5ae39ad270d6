import Mathlib
import Rulebook.Proofs.Validation.Reading

/-!
# Descriptors written and read again

A descriptor that has been read has a name and some operators, its own or those of its kind
(`Accepted`). Such a descriptor is read from its JSON form as it was, operators, select list and
all, if its metadata are values that JSON can tell (`Value.Told`).
-/

namespace Rulebook

open Rulebook.Number

/-! ## Values -/

theorem map_eq_self {α : Type} {f : α → α} {xs : List α} (h : ∀ x ∈ xs, f x = x) :
    xs.map f = xs := by
  rw [List.map_congr_left h, List.map_id']

namespace Value

/-- A value that JSON can tell: a double must be finite, and keys must be texts. -/
inductive Told : Value → Prop where
  | null : Told .null
  | bool (b : Bool) : Told (.bool b)
  | int (n : Int) : Told (.int n)
  | negativeZero : Told (.double .negativeZero)
  | finite (units : Int) : Told (.double (.finite units))
  | text (s : String) : Told (.text s)
  | list {items : List Value} (h : ∀ x ∈ items, Told x) : Told (.list items)
  | dict {entries : List (Value × Value)} (hkeys : ∀ e ∈ entries, ∃ name, e.1 = .text name)
      (hvalues : ∀ e ∈ entries, Told e.2) : Told (.dict entries)

theorem ofJsonItems_toJsonItems {items : List Value}
    (h : ∀ x ∈ items, ofJson x.toJson = x) : ofJsonItems (toJsonItems items) = items := by
  induction items with
  | nil => rfl
  | cons x rest ih =>
    rw [List.forall_mem_cons] at h
    rw [toJsonItems, ofJsonItems, h.1, ih h.2]

theorem ofJsonMembers_toJsonEntries {entries : List (Value × Value)}
    (hkeys : ∀ e ∈ entries, ∃ name, e.1 = .text name)
    (hvalues : ∀ e ∈ entries, ofJson e.2.toJson = e.2) :
    ofJsonMembers (toJsonEntries entries) = entries := by
  induction entries with
  | nil => rfl
  | cons e rest ih =>
    rw [List.forall_mem_cons] at hkeys hvalues
    obtain ⟨k, v⟩ := e
    obtain ⟨⟨name, rfl⟩, hkeys⟩ := hkeys
    rw [toJsonEntries, ofJsonMembers, hvalues.1, ih hkeys hvalues.2]
    rfl

theorem Told.ofJson_toJson {v : Value} (h : v.Told) : ofJson v.toJson = v := by
  induction h with
  | list _ ih => rw [toJson, ofJson, ofJsonItems_toJsonItems ih]
  | dict hkeys _ ih => rw [toJson, ofJson, ofJsonMembers_toJsonEntries hkeys ih]
  | _ => rfl

theorem valueMap_of_told {entries : List (String × Value)} (h : ∀ e ∈ entries, e.2.Told) :
    Checked.valueMap (metadataJson entries) = .ok entries := by
  rw [metadataJson, Checked.valueMap, List.map_map]
  refine congrArg Checked.ok (map_eq_self fun e he => ?_)
  exact Prod.ext rfl (h e he).ofJson_toJson

end Value

/-! ## Parts of a descriptor -/

namespace Checked

theorem selectOption_toJson (o : SelectOption) : selectOption o.toJson = .ok o := by
  refine seq_of_ok (seq_of_ok (map_of_ok SelectOption.mk ?value) ?text) ?hint
  case value => exact required_of_member rfl rfl
  case text => exact required_of_member rfl rfl
  case hint => exact optional_of_member rfl (nullable_text o.hint)

theorem selectList_toJson (l : SelectList) : selectList l.toJson = .ok l := by
  cases l with
  | fixed options multiple =>
    refine within_of_ok (seq_of_ok (map_of_ok SelectList.fixed ?options) ?multiple)
    case options =>
      exact optional_of_member rfl (items_of_written 0 fun o _ => selectOption_toJson o)
    case multiple => exact optional_of_member rfl rfl
  | remote source multiple =>
    let j := (SelectList.remote source multiple).toJson
    have hread : selectList j = within (.member "remote") (SelectList.remote <$>
        required "data_source" text j <*> optional "multiple" false bool j) := rfl
    refine hread.trans (within_of_ok (seq_of_ok (map_of_ok SelectList.remote ?source) ?multiple))
    case source => exact required_of_member rfl rfl
    case multiple => exact optional_of_member rfl rfl

theorem nullable_selectList (l : Option SelectList) :
    nullable selectList ((l.map SelectList.toJson).getD .null) = .ok l := by
  cases l with
  | none => rfl
  | some l =>
    have hread := map_of_ok some (selectList_toJson l)
    cases l <;> exact hread

theorem operators_of_written (os : List Operator) :
    operators (.array (os.map fun o => .text o.name)) = .ok os :=
  items_of_written 0 fun o _ => operator_of_name o

/-- A kind of values has operators. -/
theorem ne_nil_of_defaultOperators {j : Json} {os : List Operator}
    (h : defaultOperators j = .ok os) : os ≠ [] := by
  have hkind (k : ValueKind) : k.operators ≠ [] := by cases k <;> decide
  rw [defaultOperators] at h
  split at h
  · cases h
    exact hkind _
  · split at h
    · cases h
      exact hkind _
    · cases h
  · cases h

/-- What is given and does not count as nothing is a list that holds something. -/
theorem ne_nil_of_operators {j : Json} {os : List Operator}
    (hgiven : (j.member? "operators").all isNothing = false)
    (h : optional "operators" [] operators j = .ok os) : os ≠ [] := by
  rcases optional_eq_ok h with ⟨hmember, -⟩ | ⟨v, hmember, hread⟩
  · rw [hmember] at hgiven
    cases hgiven
  · rw [hmember] at hgiven
    cases v with
    | array js =>
      refine ne_nil_of_items (fun hnil => ?_) hread
      subst hnil
      cases hgiven
    | _ => cases hread

end Checked

/-! ## Descriptors -/

namespace Descriptor

open Checked

variable {d : Descriptor}

/-- What reading sees to: a descriptor has a name and operators. -/
structure Accepted (d : Descriptor) : Prop where
  name : 1 ≤ d.name.length
  operators : d.operators ≠ []

theorem accepted_of_descriptorWith {readOperators : Checked (List Operator)} {j : Json}
    (hne : ∀ os, readOperators = .ok os → os ≠ []) (h : descriptorWith readOperators j = .ok d) :
    d.Accepted := by
  -- the last field is read last, and each step back leaves one field fewer
  obtain ⟨_, _, hmetadata, -, rfl⟩ := seq_eq_ok h
  obtain ⟨_, _, hprocessor, -, rfl⟩ := seq_eq_ok hmetadata
  obtain ⟨_, _, hlist, -, rfl⟩ := seq_eq_ok hprocessor
  obtain ⟨_, _, hoperators, -, rfl⟩ := seq_eq_ok hlist
  obtain ⟨_, operators, hkind, hread, rfl⟩ := seq_eq_ok hoperators
  obtain ⟨_, _, hkey, -, rfl⟩ := seq_eq_ok hkind
  obtain ⟨_, _, hshown, -, rfl⟩ := seq_eq_ok hkey
  obtain ⟨_, _, hnamed, -, rfl⟩ := seq_eq_ok hshown
  obtain ⟨_, name, hscope, hname, rfl⟩ := seq_eq_ok hnamed
  obtain ⟨scope, -, rfl⟩ := map_eq_ok hscope
  obtain ⟨v, -, htext⟩ := required_eq_ok hname
  exact ⟨le_of_longText htext, hne operators hread⟩

theorem accepted_of_descriptor {j : Json} (h : Checked.descriptor j = .ok d) : d.Accepted := by
  cases j with
  | object members =>
    rw [Checked.descriptor, model] at h
    split_ifs at h with hgiven
    · obtain ⟨os, hos, hread⟩ := andThen_eq_ok h
      refine accepted_of_descriptorWith (fun _ heq => ?_) hread
      cases heq
      exact ne_nil_of_defaultOperators hos
    · exact accepted_of_descriptorWith
        (fun _ hos => ne_nil_of_operators (Bool.eq_false_iff.2 hgiven) hos) h
  | _ => cases h

theorem Accepted.descriptorWith_toJson (h : d.Accepted) (htold : ∀ e ∈ d.metadata, e.2.Told) :
    descriptorWith (Checked.optional "operators" [] Checked.operators d.toJson) d.toJson =
      .ok d := by
  have hscope := choice_of_name (Scope.ofName?_name d.scope)
  have hkind := choice_of_name (ValueKind.ofName?_eq_some_iff.2 (Eq.refl d.kind.name))
  refine seq_of_ok (seq_of_ok (seq_of_ok (seq_of_ok (seq_of_ok (seq_of_ok (seq_of_ok (seq_of_ok
    (seq_of_ok (map_of_ok Descriptor.mk ?scope) ?name) ?shown) ?key) ?kind) ?operators) ?list)
    ?processor) ?metadata) ?valid
  case scope => exact required_of_member rfl hscope
  case name => exact required_of_member rfl (longText_of_le h.name)
  case shown => exact optional_of_member rfl (nullable_text d.displayName)
  case key => exact optional_of_member rfl (nullable_text d.groupKey)
  case kind => exact optional_of_member rfl hkind
  case operators => exact optional_of_member rfl (operators_of_written d.operators)
  case list => exact optional_of_member rfl (nullable_selectList d.selectList)
  case processor => exact required_of_member rfl rfl
  case metadata => exact optional_of_member rfl (Value.valueMap_of_told htold)
  case valid => exact optional_of_member rfl rfl

theorem accepted_composite (scope : Scope) : (composite scope).Accepted :=
  ⟨show 1 ≤ "composite".length by decide, List.cons_ne_nil _ _⟩

/-- A descriptor is read as it was written. -/
theorem Accepted.descriptor_toJson (h : d.Accepted) (htold : ∀ e ∈ d.metadata, e.2.Told) :
    Checked.descriptor d.toJson = .ok d := by
  have hmember : d.toJson.member? "operators" =
      some (.array (d.operators.map fun o => .text o.name)) := rfl
  have hgiven : ¬ (d.toJson.member? "operators").all isNothing = true := by
    simpa [hmember, isNothing] using h.operators
  exact (if_neg hgiven).trans (h.descriptorWith_toJson htold)

end Descriptor

end Rulebook
