import Mathlib
import Rulebook.Proofs.Descriptor.RoundTrip
import Rulebook.Proofs.Display.Writing

/-!
# Expressions written and read again

Expressions that are read from JSON, and to whose groups such expressions are added, keep to what
reading sees to: descriptors have a name and operators, and groups carry a descriptor of groups
(`Expr.Accepted`). What keeps to it is read from its JSON form as it was, by induction on the
expression, if JSON can tell its values (`Expr.Told`).
-/

namespace Rulebook

open Checked Number Json

/-! ## Conditions on the nodes of an expression -/

/-- A condition holds of every leaf of an expression, and another of the head of every group. -/
inductive Expr.Each (onLeaf : Leaf → Prop) (onHead : GroupHead → Prop) : Expr → Prop where
  | leaf {c : Leaf} (h : onLeaf c) : Each onLeaf onHead (.leaf c)
  | group {head : GroupHead} {parts : List Expr} (hhead : onHead head)
      (h : ∀ e ∈ parts, Each onLeaf onHead e) : Each onLeaf onHead (.group head parts)

/-- Notes that JSON can tell. -/
def Notes.Told (notes : Notes) : Prop := ∀ e ∈ notes, ∃ v, e.2 = .value v ∧ v.Told

/-- A condition whose values JSON can tell. -/
structure Leaf.Told (c : Leaf) : Prop where
  descriptor : ∀ d, c.descriptor = some d → ∀ e ∈ d.metadata, e.2.Told
  value : c.value.Told
  notes : Notes.Told c.notes

/-- The head of a group whose values JSON can tell. -/
structure GroupHead.Told (head : GroupHead) : Prop where
  descriptor : ∀ e ∈ head.descriptor.metadata, e.2.Told
  value : head.value.Told
  notes : Notes.Told head.notes

/-- An expression whose values JSON can tell. -/
def Expr.Told : Expr → Prop := Each Leaf.Told GroupHead.Told

/-- What reading sees to in a condition. -/
def Leaf.Accepted (c : Leaf) : Prop := ∀ d, c.descriptor = some d → d.Accepted

/-- What reading sees to in a group. -/
structure GroupHead.Accepted (head : GroupHead) : Prop where
  descriptor : head.descriptor.Accepted
  composite : head.descriptor.isComposite = true

/-- What reading sees to in an expression. -/
def Expr.Accepted : Expr → Prop := Each Leaf.Accepted GroupHead.Accepted

/-! ## What is read is accepted -/

namespace Checked

theorem accepted_of_leaf {j : Json} {c : Leaf} (h : leaf j = .ok c) : c.Accepted := by
  -- back from the last member to the descriptor
  obtain ⟨_, _, hraw, -, rfl⟩ := seq_eq_ok h
  obtain ⟨_, _, hvalue, -, rfl⟩ := seq_eq_ok hraw
  obtain ⟨_, _, hoperator, -, rfl⟩ := seq_eq_ok hvalue
  obtain ⟨_, _, hdescriptor, -, rfl⟩ := seq_eq_ok hoperator
  obtain ⟨_, descriptor, hid, hread, rfl⟩ := seq_eq_ok hdescriptor
  obtain ⟨id, -, rfl⟩ := map_eq_ok hid
  rintro d rfl
  rcases optional_eq_ok hread with ⟨-, hnone⟩ | ⟨v, -, hread⟩
  · cases hnone
  · exact Descriptor.accepted_of_descriptor (nullable_eq_ok hread)

theorem accepted_of_groupHead {j : Json} {head : GroupHead} (h : groupHead j = .ok head) :
    head.descriptor.Accepted := by
  obtain ⟨_, _, hsub, -, rfl⟩ := seq_eq_ok h
  obtain ⟨_, _, hconnective, -, rfl⟩ := seq_eq_ok hsub
  obtain ⟨_, _, hnotes, -, rfl⟩ := seq_eq_ok hconnective
  obtain ⟨_, _, hraw, -, rfl⟩ := seq_eq_ok hnotes
  obtain ⟨_, _, hvalue, -, rfl⟩ := seq_eq_ok hraw
  obtain ⟨_, _, hoperator, -, rfl⟩ := seq_eq_ok hvalue
  obtain ⟨_, _, hdescriptor, -, rfl⟩ := seq_eq_ok hoperator
  obtain ⟨_, descriptor, hid, hread, rfl⟩ := seq_eq_ok hdescriptor
  obtain ⟨id, -, rfl⟩ := map_eq_ok hid
  rcases optional_eq_ok hread with ⟨-, rfl⟩ | ⟨v, -, hread⟩
  · exact Descriptor.accepted_composite _
  · exact Descriptor.accepted_of_descriptor hread

theorem compositeGroup_eq_ok {g g' : Group} (h : compositeGroup g = .ok g') :
    g' = g ∧ g.head.descriptor.isComposite = true := by
  rw [compositeGroup] at h
  split_ifs at h with hcomposite
  · cases h
    exact ⟨rfl, hcomposite⟩
  · cases h

theorem expr_of_leaf {members : List (String × Json)}
    (hkind : (Json.object members).member? "kind" = some (.text "leaf")) :
    expr (.object members) = within (.member "leaf") (.leaf <$> leaf (.object members)) := by
  rw [expr]
  simp only [hkind]

theorem expr_of_group {members : List (String × Json)}
    (hkind : (Json.object members).member? "kind" = some (.text "group")) :
    expr (.object members) = within (.member "group")
      ((Group.mk <$> groupHead (.object members) <*> partsAmong members).andThen fun g =>
        Group.toExpr <$> compositeGroup g) := by
  rw [expr]
  simp only [hkind]

/-- Whatever expressions are read are accepted. -/
def AllAccepted (x : Checked (List Expr)) : Prop := ∀ es, x = .ok es → ∀ e ∈ es, e.Accepted

theorem AllAccepted.within {x : Checked (List Expr)} (h : AllAccepted x) (step : Step) :
    AllAccepted (x.within step) := fun es hes => h es (within_eq_ok hes)

theorem allAccepted_fault (f : Fault) : AllAccepted (fault f) := nofun

theorem allAccepted_nil : AllAccepted (ok []) := by
  intro es hes
  cases hes
  exact nofun

theorem allAccepted_exprItems {index : Nat} {j : Json} {rest : List Json}
    (hfirst : ∀ e, expr j = .ok e → e.Accepted) (hrest : AllAccepted (exprItems (index + 1) rest)) :
    AllAccepted (exprItems index (j :: rest)) := by
  intro es hes
  obtain ⟨_, tail, hhead, htail, rfl⟩ := seq_eq_ok hes
  obtain ⟨first, hread, rfl⟩ := map_eq_ok hhead
  exact List.forall_mem_cons.2 ⟨hfirst first (within_eq_ok hread), hrest tail htail⟩

theorem accepted_of_group {members : List (String × Json)} {e : Expr}
    (hparts : AllAccepted (partsAmong members))
    (hkind : (Json.object members).member? "kind" = some (.text "group"))
    (h : expr (.object members) = .ok e) : e.Accepted := by
  rw [expr_of_group hkind] at h
  obtain ⟨g, hmk, hgroup⟩ := andThen_eq_ok (within_eq_ok h)
  obtain ⟨_, parts, hmap, hread, rfl⟩ := seq_eq_ok hmk
  obtain ⟨head, hhead, rfl⟩ := map_eq_ok hmap
  obtain ⟨g', hchecked, rfl⟩ := map_eq_ok hgroup
  obtain ⟨rfl, hcomposite⟩ := compositeGroup_eq_ok hchecked
  exact .group ⟨accepted_of_groupHead hhead, hcomposite⟩ (hparts parts hread)

theorem accepted_of_expr {j : Json} {e : Expr} (h : expr j = .ok e) : e.Accepted := by
  -- the induction is on the reading, with its parts and lists of expressions alongside
  refine expr.induct (fun j => ∀ e, expr j = .ok e → e.Accepted)
    (fun members => AllAccepted (partsAmong members)) (fun j => AllAccepted (exprs j))
    (fun index js => AllAccepted (exprItems index js)) ?untagged ?leaf ?group ?mistagged ?noObject
    ?array ?noArray ?noItem ?item ?noPart ?parts ?otherMember j e h
  case untagged =>
    intro members j hkind e h
    rw [expr, hkind] at h
    cases h
  case leaf =>
    intro members j hkind e h
    rw [expr_of_leaf hkind] at h
    obtain ⟨c, hread, rfl⟩ := map_eq_ok (within_eq_ok h)
    exact .leaf (accepted_of_leaf hread)
  case group =>
    intro members j hkind hparts e h
    exact accepted_of_group hparts hkind h
  case mistagged =>
    intro members j kind hleaf hgroup hkind e h
    rw [expr, hkind] at h
    split at h
    · cases h
    · exact (hleaf (Option.some.inj ‹_›)).elim
    · exact (hgroup (Option.some.inj ‹_›)).elim
    · cases h
  case noObject =>
    intro j hno e h
    cases j with
    | object members => exact absurd rfl (hno members)
    | _ => cases h
  case array => exact fun js hitems => hitems
  case noArray =>
    intro j hno
    cases j with
    | array js => exact absurd rfl (hno js)
    | _ => exact allAccepted_fault _
  case noItem => exact fun _ => allAccepted_nil
  case item => exact fun index j rest => allAccepted_exprItems
  case noPart => exact allAccepted_nil
  case parts =>
    intro value rest hvalue
    rw [partsAmong, if_pos rfl]
    exact hvalue.within _
  case otherMember =>
    intro name value rest hname hrest
    rw [partsAmong, if_neg hname]
    exact hrest

/-! ## What is written is read -/

theorem notes_of_told {entries : Notes} (h : Notes.Told entries) :
    notes (ExprStyle.plain.notes entries) = .ok entries := by
  have hread : notes (ExprStyle.plain.notes entries) = .ok (entries.map fun e =>
      (e.1, Note.value (Value.ofJson (ExprStyle.plain.note e.2)))) := by
    refine (map_of_ok _ rfl).trans (congrArg ok ?_)
    rw [List.map_map, List.map_map]
    rfl
  rw [hread]
  refine congrArg ok (map_eq_self fun e he => ?_)
  obtain ⟨v, hv, htold⟩ := h e he
  refine Prod.ext rfl ?_
  rw [hv]
  exact congrArg Note.value htold.ofJson_toJson

theorem nullable_descriptor {d : Option Descriptor} (h : ∀ x, d = some x → x.Accepted)
    (htold : ∀ x, d = some x → ∀ e ∈ x.metadata, e.2.Told) :
    nullable descriptor ((d.map ExprStyle.plain.descriptor).getD .null) = .ok d := by
  cases d with
  | none => rfl
  | some x => exact map_of_ok some ((h x rfl).descriptor_toJson (htold x rfl))

theorem nullable_int (n : Option Int) :
    nullable int (ExprStyle.plain.optionalNumber n) = .ok n := by
  cases n <;> rfl

theorem anyValue_of_told {v : Value} (h : v.Told) : anyValue v.toJson = .ok v :=
  congrArg ok h.ofJson_toJson

theorem leaf_of_accepted {c : Leaf} (h : c.Accepted) (htold : c.Told) :
    leaf (.object (ExprStyle.plain.leafMembers c)) = .ok c := by
  refine seq_of_ok (seq_of_ok (seq_of_ok (seq_of_ok (seq_of_ok (map_of_ok Leaf.mk ?id) ?descriptor)
    ?operator) ?value) ?raw) ?notes
  case id => exact optional_of_member rfl rfl
  case descriptor => exact optional_of_member rfl (nullable_descriptor h htold.descriptor)
  case operator => exact optional_of_member rfl (operator_of_name _)
  case value => exact optional_of_member rfl (anyValue_of_told htold.value)
  case raw => exact optional_of_member rfl (nullable_text c.rawValue)
  case notes => exact optional_of_member rfl (notes_of_told htold.notes)

theorem groupHead_of_accepted {head : GroupHead} (h : head.Accepted) (htold : head.Told)
    (more : List (String × Json)) :
    groupHead (.object (ExprStyle.plain.groupMembers head ++ more)) = .ok head := by
  refine seq_of_ok (seq_of_ok (seq_of_ok (seq_of_ok (seq_of_ok (seq_of_ok (seq_of_ok (seq_of_ok
    (map_of_ok GroupHead.mk ?id) ?descriptor) ?operator) ?value) ?raw) ?notes) ?connective) ?sub)
    ?rule
  case id => exact optional_of_member rfl rfl
  case descriptor =>
    exact optional_of_member rfl (h.descriptor.descriptor_toJson htold.descriptor)
  case operator => exact optional_of_member rfl (operator_of_name _)
  case value => exact optional_of_member rfl (anyValue_of_told htold.value)
  case raw => exact optional_of_member rfl (nullable_text head.rawValue)
  case notes => exact optional_of_member rfl (notes_of_told htold.notes)
  case connective =>
    exact optional_of_member rfl (choice_of_name (Connective.ofName?_eq_some_iff.2 rfl))
  case sub => exact optional_of_member rfl rfl
  case rule => exact optional_of_member rfl (nullable_int head.refRuleId)

/-- The reading of parts is the reading of items. -/
theorem exprItems_eq_items (index : Nat) (js : List Json) :
    exprItems index js = items expr index js := by
  induction js generalizing index with
  | nil => rfl
  | cons j rest ih => rw [exprItems, items, ih]

theorem partsAmong_of_written (head : GroupHead) {parts : List Expr}
    (h : ∀ e ∈ parts, expr e.toJson = .ok e) :
    partsAmong (ExprStyle.plain.groupMembers head ++
      [("expressions", .array (Expr.listToJsonIn .plain parts))]) = .ok parts := by
  have hparts : exprItems 0 (Expr.listToJsonIn .plain parts) = .ok parts := by
    rw [exprItems_eq_items, Expr.listToJsonIn_eq_map]
    exact items_of_written 0 h
  exact within_of_ok hparts

/-- An accepted expression is read as it was written. -/
theorem expr_of_accepted {e : Expr} (h : e.Accepted) (htold : e.Told) : expr e.toJson = .ok e := by
  induction h with
  | @leaf c hleaf =>
    cases htold with
    | leaf htold =>
      exact (expr_of_leaf rfl).trans
        (within_of_ok (map_of_ok Expr.leaf (leaf_of_accepted hleaf htold)))
  | @group head parts hhead h ih =>
    -- the head is read from all members, the parts from the last one
    cases htold with
    | group hheadTold htold =>
      have hparts := partsAmong_of_written head fun e he => ih e he (htold e he)
      have hheadRead := groupHead_of_accepted hhead hheadTold
        [("expressions", .array (Expr.listToJsonIn .plain parts))]
      have hread := seq_of_ok (map_of_ok Group.mk hheadRead) hparts
      have hgroup : Group.toExpr <$> compositeGroup ⟨head, parts⟩ = .ok (.group head parts) :=
        map_of_ok Group.toExpr (if_pos hhead.composite)
      exact (expr_of_group rfl).trans (within_of_ok (andThen_of_ok hread hgroup))

end Checked

/-! ## Expressions that are read and added to -/

namespace Expr

/-- The second expression is the first one with further expressions added to a group, itself or one
at any depth. -/
inductive Adds (more : List Expr) : Expr → Expr → Prop where
  | here (g : Group) : Adds more g.toExpr (g.add more).toExpr
  | deeper {head : GroupHead} {before after : List Expr} {e e' : Expr} (h : Adds more e e') :
      Adds more (.group head (before ++ e :: after)) (.group head (before ++ e' :: after))

/-- An expression that is read from JSON, or to whose groups such expressions are added. -/
inductive Built : Expr → Prop where
  | read {j : Json} {e : Expr} (h : Checked.expr j = .ok e) : Built e
  | added {e e' : Expr} {more : List Expr} (he : Built e) (hmore : ∀ x ∈ more, Built x)
      (h : Adds more e e') : Built e'

theorem Each.adds {onLeaf : Leaf → Prop} {onHead : GroupHead → Prop} {e e' : Expr}
    {more : List Expr} (h : Adds more e e') (hmore : ∀ x ∈ more, Each onLeaf onHead x)
    (he : Each onLeaf onHead e) : Each onLeaf onHead e' := by
  induction h with
  | here g =>
    cases he with
    | group hhead hparts => exact .group hhead (List.forall_mem_append.2 ⟨hparts, hmore⟩)
  | deeper _ ih =>
    cases he with
    | group hhead hparts =>
      rw [List.forall_mem_append, List.forall_mem_cons] at hparts
      refine .group hhead ?_
      rw [List.forall_mem_append, List.forall_mem_cons]
      exact ⟨hparts.1, ih hparts.2.1, hparts.2.2⟩

theorem Built.accepted {e : Expr} (h : Built e) : e.Accepted := by
  induction h with
  | read h => exact Checked.accepted_of_expr h
  | added _ _ h ih ihmore => exact Each.adds h ihmore ih

/-- What it means that an expression survives being written as JSON. -/
structure SurvivesJson (e : Expr) : Prop where
  /-- Its JSON form is read as the same expression: the same leaves and groups, with the same
  descriptors, operators, values and notes, and parts in the same order. -/
  read : Checked.expr e.toJson = .ok e
  /-- The test for that succeeds. -/
  check : e.readsBack = true
  /-- The text of its JSON form is read as the same expression as well, if no number is too long to
  be read at all. -/
  text : e.Writable →
    ∃ j, Json.parse (e.toJson.renderLines ++ "\n") = .ok j ∧ Checked.expr j = .ok e

/-- An expression that is read from JSON and added to, again and again and at any depth, survives
being written as JSON if JSON can tell its values. -/
theorem built_expressions_survive_json {e : Expr} (h : e.Built) (htold : e.Told) :
    e.SurvivesJson := by
  have hread := Checked.expr_of_accepted h.accepted htold
  refine ⟨hread, ?check, fun hwritable => ⟨e.toJson, ?parse, hread⟩⟩
  case check =>
    rw [readsBack, hread]
    exact beq_self_eq_true _
  case parse => exact Json.parse_renderLines hwritable.readable

/-- A condition on the total of an order, as JSON that leaves out what has a default. -/
def totalJson : Json :=
  .object [("kind", .text "leaf"), ("id", .text "10"), ("operator", .text "gte"),
    ("value", .int 100), ("metadata", .object [("bounds", .array [.int 0, .null])]),
    ("descriptor", .object [("scope", .text "cart"), ("name", .text "total"),
      ("rule_type", .text "int"), ("processor", .text "cart_total"),
      ("select_list", .object [("kind", .text "remote"), ("data_source", .text "totals")])])]

/-- The condition on the total. -/
def total : Leaf where
  id := 10
  descriptor := some ⟨.cart, "total", none, none, .int, ValueKind.int.operators,
    some (.remote "totals" false), "cart_total", [], true⟩
  operator := .atLeast
  value := .int 100
  rawValue := none
  notes := [("bounds", .value (.list [.int 0, .null]))]

/-- A condition on the way of delivery, whose options are given. -/
def deliveryJson : Json :=
  .object [("kind", .text "leaf"), ("value", .text "pickup"),
    ("descriptor", .object [("scope", .text "cart"), ("name", .text "delivery"),
      ("rule_type", .text "string"), ("operators", .array [.text "eq"]),
      ("processor", .text "cart_delivery"),
      ("select_list", .object [("kind", .text "local"),
        ("options", .array [.object [("value", .text "pickup"), ("text", .text "Pick up")]])])])]

/-- The condition on the way of delivery. -/
def delivery : Leaf where
  id := 0
  descriptor := some ⟨.cart, "delivery", none, none, .string, [.equal],
    some (.fixed [⟨"pickup", "Pick up", none⟩] false), "cart_delivery", [], true⟩
  operator := .equal
  value := .text "pickup"
  rawValue := none
  notes := []

/-- A group inside a group, as JSON. -/
def orderJson : Json :=
  .object [("kind", .text "group"), ("logical_operator", .text "or"),
    ("expressions", .array [.object [("kind", .text "group"), ("id", .int 2),
      ("is_subgroup", .text "yes"), ("ref_rule_id", .int 9),
      ("expressions", .array [totalJson])]])]

/-- The outer group without its parts. -/
def orderHead : GroupHead :=
  ⟨0, .composite .productAttribute, .equal, .null, none, [], .some, false, none⟩

/-- The nested group without its parts. -/
def nestedHead : GroupHead :=
  ⟨2, .composite .productAttribute, .equal, .null, none, [], .every, true, some 9⟩

/-- The nested group with the condition on the way of delivery added to it. -/
def grownOrder : Expr := .group orderHead [.group nestedHead [.leaf total, .leaf delivery]]

theorem told_grownOrder : grownOrder.Told := by
  have htotal : total.Told := by
    refine ⟨?_, .int 100, ?_⟩
    · rintro _ ⟨⟩
      exact nofun
    · refine List.forall_mem_singleton.2 ⟨_, rfl, .list ?_⟩
      exact List.forall_mem_cons.2 ⟨.int 0, List.forall_mem_singleton.2 .null⟩
  have hdelivery : delivery.Told := by
    refine ⟨?_, .text "pickup", nofun⟩
    rintro _ ⟨⟩
    exact nofun
  have hnested : (Expr.group nestedHead [.leaf total, .leaf delivery]).Told :=
    .group ⟨nofun, .null, nofun⟩
      (List.forall_mem_cons.2 ⟨.leaf htotal, List.forall_mem_singleton.2 (.leaf hdelivery)⟩)
  exact .group ⟨nofun, .null, nofun⟩ (List.forall_mem_singleton.2 hnested)

theorem writable_grownOrder : grownOrder.Writable := by
  have hcomposite := Descriptor.readable_composite .productAttribute
  have htotal : total.Writable := by
    refine ⟨isShort_of_fitsWord rfl, ?_, .int (isShort_of_fitsWord rfl), List.nodup_singleton _, ?_⟩
    · rintro _ ⟨⟩
      exact Descriptor.readable _ (.object List.nodup_nil nofun)
    · refine List.forall_mem_singleton.2 (.array ?_)
      exact List.forall_mem_cons.2
        ⟨.int (isShort_of_fitsWord rfl), List.forall_mem_singleton.2 .null⟩
  have hdelivery : delivery.Writable := by
    refine ⟨isShort_of_fitsWord rfl, ?_, .text "pickup", .nil⟩
    rintro _ ⟨⟩
    exact Descriptor.readable _ (.object List.nodup_nil nofun)
  have hhead : nestedHead.Writable := by
    refine ⟨isShort_of_fitsWord rfl, hcomposite, .null, .nil, ?_⟩
    rintro _ ⟨⟩
    exact isShort_of_fitsWord rfl
  have hnested : (Expr.group nestedHead [.leaf total, .leaf delivery]).Writable :=
    .group hhead
      (List.forall_mem_cons.2 ⟨.leaf htotal, List.forall_mem_singleton.2 (.leaf hdelivery)⟩)
  exact .group ⟨isShort_of_fitsWord rfl, hcomposite, .null, .nil, nofun⟩
    (List.forall_mem_singleton.2 hnested)

/-- Adding the condition on the way of delivery to the nested group leaves an order that
survives. -/
theorem grown_order_survives :
    Checked.expr orderJson = .ok (.group orderHead [.group nestedHead [.leaf total]]) ∧
      Checked.expr deliveryJson = .ok (.leaf delivery) ∧ grownOrder.Told ∧
      grownOrder.Writable ∧ grownOrder.SurvivesJson := by
  have horder : Checked.expr orderJson =
      .ok (.group orderHead [.group nestedHead [.leaf total]]) := by rfl
  have hdelivery : Checked.expr deliveryJson = .ok (.leaf delivery) := by rfl
  have hadds : Adds [.leaf delivery] (.group orderHead [.group nestedHead [.leaf total]])
      grownOrder := @Adds.deeper _ orderHead [] [] _ _ (.here ⟨nestedHead, [.leaf total]⟩)
  have hbuilt : grownOrder.Built :=
    .added (.read horder) (List.forall_mem_singleton.2 (.read hdelivery)) hadds
  exact ⟨horder, hdelivery, told_grownOrder, writable_grownOrder,
    built_expressions_survive_json hbuilt told_grownOrder⟩

end Expr

end Rulebook
