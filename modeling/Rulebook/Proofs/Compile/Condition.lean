import Rulebook.Proofs.Compile.Step

/-!
# Conditions

What a rule that is no reference becomes. Under a descriptor it is read if its operator is known and
allowed and its value can be converted (`Descriptor.reads?`); then it becomes a condition with its
number, and otherwise nothing. The only ways to fail are that the descriptors cannot be loaded and
that a rule to be shown has no number.
-/

namespace Rulebook

/-- The operator and the value that a rule is read as under a descriptor. -/
def Descriptor.reads? (d : Descriptor) (r : DraftRule) : Option (Operator × Value) :=
  match r.operator.bind Operator.ofName?, d.kind.convert r.value with
  | some o, .ok value =>
    if d.isValid && !d.operators.contains o then none else some (o, value)
  | _, _ => none

/-- The condition that a rule becomes. -/
def Descriptor.leaf (d : Descriptor) (r : DraftRule) (id : Int) (o : Operator) (value : Value) :
    Leaf where
  id := id
  descriptor := some d
  operator := o
  value := value
  rawValue := r.value
  notes := []

/-- The descriptors load, or fail with no error of the rule engine itself. -/
def Visitor.LoadsPlainly (v : Visitor) : Prop := ∀ e, v.kinds ≠ .error (.rule e)

namespace Visitor

variable {v : Visitor} {r : DraftRule} {f : Failure}

theorem loadsPlainly_of_ok {kinds : Collection} (h : v.kinds = .ok kinds) : v.LoadsPlainly := by
  intro e
  rw [h]
  exact nofun

/-- The descriptor that a rule is read under: that of its kind, or the stand-in. -/
def kindOf (v : Visitor) (kinds : Collection) (r : DraftRule) : Descriptor :=
  (kinds.find? r.ruleType).getD (.unknown v.scope r.ruleType)

theorem result_visitRule (v : Visitor) (r : DraftRule) :
    (v.visitRule r).result = v.kinds >>= fun kinds => leafOf (v.kindOf kinds r) r := by
  unfold visitRule
  simp only [Outcome.result_bind, Outcome.result_ofResult]
  show (v.kinds >>= _) = _
  congr 1
  funext kinds
  unfold descriptorOf kindOf
  cases kinds.find? r.ruleType <;> rfl

/-- A rule that can be read becomes a condition, if it has a number. -/
theorem leafOf_of_reads {d : Descriptor} {o : Operator} {value : Value}
    (h : d.reads? r = some (o, value)) :
    leafOf d r = do return d.leaf r (← needId r.id) o value := by
  unfold Descriptor.reads? at h
  unfold leafOf operatorOf
  cases ho : r.operator.bind Operator.ofName? with
  | none => simp [ho] at h
  | some o' =>
    cases hvalue : d.kind.convert r.value with
    | error e => simp [ho, hvalue] at h
    | ok value' =>
      simp only [ho, hvalue, Option.ite_none_left_eq_some, Option.some.injEq, Prod.mk.injEq] at h
      obtain ⟨hallowed, rfl, rfl⟩ := h
      show (if _ then _ else _) = _
      rw [if_neg hallowed]
      rfl

/-- A rule that cannot be read fails to be converted. -/
theorem leafOf_of_not_reads {d : Descriptor} (h : d.reads? r = none) :
    ∃ cause, leafOf d r = .fail (.conversion r.id cause) := by
  unfold Descriptor.reads? at h
  unfold leafOf operatorOf
  cases ho : r.operator.bind Operator.ofName? with
  | none => exact ⟨_, rfl⟩
  | some o =>
    -- the operator is looked at before the value
    by_cases hallowed : (d.isValid && !d.operators.contains o) = true
    · exact ⟨_, if_pos hallowed⟩
    · cases hvalue : d.kind.convert r.value with
      | error e => exact ⟨_, if_neg hallowed⟩
      | ok value => simp only [ho, hvalue, if_neg hallowed, reduceCtorEq] at h

/-- What a rule adds to its group once the descriptors are loaded. -/
theorem condition_eq {kinds : Collection} (hkinds : v.kinds = .ok kinds) :
    v.condition r =
      match (v.kindOf kinds r).reads? r with
      | none => .ok none
      | some (o, value) => do return some (.leaf ((v.kindOf kinds r).leaf r (← needId r.id) o value)) := by
  unfold condition
  rw [result_visitRule, hkinds]
  show Result.orNothing (leafOf (v.kindOf kinds r) r >>= _) = _
  cases hreads : (v.kindOf kinds r).reads? r with
  | none =>
    -- the conversion fails, and the rule adds nothing
    obtain ⟨cause, hcause⟩ := leafOf_of_not_reads hreads
    rw [hcause]
    rfl
  | some read =>
    rw [leafOf_of_reads hreads]
    cases r.id <;> rfl

/-- A rule with a number becomes a condition as soon as it can be read. -/
theorem condition_of_id {kinds : Collection} {id : Int} (hkinds : v.kinds = .ok kinds)
    (hid : r.id = some id) :
    v.condition r = .ok (((v.kindOf kinds r).reads? r).map fun read =>
      .leaf ((v.kindOf kinds r).leaf r id read.1 read.2)) := by
  rw [condition_eq hkinds, hid]
  cases (v.kindOf kinds r).reads? r <;> rfl

/-- A condition fails with the descriptors, or because it has no number. -/
theorem kinds_eq_or_of_condition_error (h : v.condition r = .error f) :
    v.kinds = .error f ∨ r.id = none ∧ ∃ issues, f = .invalid issues := by
  cases hkinds : v.kinds with
  | error f' =>
    left
    -- the failure of the descriptors comes first
    have hread := Result.eq_error_of_orNothing h
    rw [result_visitRule, hkinds] at hread
    have hf : f' = f := Except.error.inj hread
    rw [hf]
  | ok kinds =>
    right
    cases hid : r.id with
    | some id => simp [condition_of_id hkinds hid] at h
    | none =>
      -- only a rule that can be read needs a number
      rw [condition_eq hkinds, hid] at h
      cases hreads : (v.kindOf kinds r).reads? r with
      | none => simp [hreads] at h
      | some read =>
        rw [hreads] at h
        cases h
        exact ⟨rfl, _, rfl⟩

/-- Conditions of stored rules fail with the descriptors only. -/
theorem kinds_eq_of_stored_condition_error {r : Rule} (h : v.condition r.toDraft = .error f) :
    v.kinds = .error f := by
  rcases kinds_eq_or_of_condition_error h with hkinds | ⟨hid, -⟩
  · exact hkinds
  · simp [Rule.toDraft] at hid

end Visitor

/-- Where descriptors load or fail plainly, the parts of a stored rule set never fail locally. -/
theorem Compiler.isLocal_of_groupParts_error {v : Visitor} {nested : Int → Result (Option Group)}
    (hkinds : v.LoadsPlainly) {s : RuleSet} {f : Failure}
    (h : Compiler.groupParts v nested s.toDraft.rules = .error f) : f.isLocal = false := by
  rcases Compiler.blame_of_groupParts_error h with ⟨-, -, -, hlocal⟩ | ⟨r, hr, hcondition⟩
  · exact hlocal
  · obtain ⟨stored, -, rfl⟩ := RuleSet.mem_toDraft_rules.1 hr
    cases f with
    | rule e => exact absurd (Visitor.kinds_eq_of_stored_condition_error hcondition) (hkinds e)
    | _ => rfl

end Rulebook
