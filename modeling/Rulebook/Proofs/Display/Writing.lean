import Mathlib
import Rulebook.Proofs.Attribute.Interpretation
import Rulebook.Proofs.Compile.Unfolding
import Rulebook.Proofs.Enrichment.Frame
import Rulebook.Proofs.Json.RoundTrip

/-!
# Writing what is shown

The group of a stored rule set, with its notes, is written as JSON that is read back as it was: its
names are texts, its numbers come from rows or from stored texts and are short enough, and no key
stands twice among its notes.
-/

namespace Rulebook

open Rulebook.Number Rulebook.Json

/-! ## Notes -/

namespace Json

theorem Readable.ofText? (s : Option String) : (Json.ofText? s).Readable := by
  cases s with
  | none => exact .null
  | some s => exact .text s

theorem Readable.of_members {members : List (String × Json)}
    (hnames : (members.map Prod.fst).Nodup) (h : ∀ j ∈ members.map Prod.snd, j.Readable) :
    (Json.object members).Readable :=
  .object hnames fun m hm => h m.2 (List.mem_map_of_mem hm)

end Json

/-- Notes that are written and read back. -/
structure Notes.Writable (notes : Notes) : Prop where
  keys : (notes.map Prod.fst).Nodup
  each : ∀ e ∈ notes, (ExprStyle.plain.note e.2).Readable

namespace Notes.Writable

variable {notes : Notes} {key : String} {note : Note}

theorem nil : Notes.Writable [] := ⟨List.nodup_nil, nofun⟩

theorem put (h : Notes.Writable notes) (hnote : (ExprStyle.plain.note note).Readable) :
    Notes.Writable (putKeyed key note notes) := by
  refine ⟨nodup_keys_putKeyed h.keys, fun e he => ?_⟩
  rcases mem_putKeyed he with rfl | he
  · exact hnote
  · exact h.each e he

theorem readable (h : Notes.Writable notes) : (ExprStyle.plain.notes notes).Readable := by
  refine .object ?_ ?_
  · rw [List.map_map]
    exact h.keys
  · intro m hm
    obtain ⟨e, he, rfl⟩ := List.mem_map.1 hm
    exact h.each e he

end Notes.Writable

theorem Display.readable (d : Display) : d.toJson.Readable := by
  apply Readable.of_members
  · simp
  · simpa using ⟨Readable.text _, Readable.ofText? _⟩

/-- The names of selected values are written under different keys. -/
theorem readable_selectedNote (options : List SelectOption) :
    (ExprStyle.plain.note (Annotator.selectedNote options)).Readable := by
  have hkeys : ∀ (options : List SelectOption) (items : List (String × Display)),
      (items.map Prod.fst).Nodup →
      ((options.foldl (fun items o => putKeyed o.value ⟨o.text, o.hint⟩ items) items).map
        Prod.fst).Nodup := by
    intro options
    induction options with
    | nil => exact fun _ h => h
    | cons o rest ih => exact fun items h => ih _ (nodup_keys_putKeyed h)
  refine .object ?_ ?_
  · rw [List.map_map]
    exact hkeys options [] List.nodup_nil
  · intro m hm
    obtain ⟨e, -, rfl⟩ := List.mem_map.1 hm
    exact e.2.readable

/-! ## Descriptors -/

theorem SelectOption.readable (o : SelectOption) : o.toJson.Readable := by
  apply Readable.of_members
  · simp
  · simpa using ⟨Readable.text _, Readable.text _, Readable.ofText? _⟩

theorem SelectList.readable (l : SelectList) : l.toJson.Readable := by
  cases l with
  | fixed options multiple =>
    have hoptions : (Json.array (options.map SelectOption.toJson)).Readable :=
      .array fun j hj => by
        obtain ⟨o, -, rfl⟩ := List.mem_map.1 hj
        exact o.readable
    apply Readable.of_members
    · simp
    · simpa using ⟨Readable.text _, hoptions, Readable.bool _⟩
  | remote source multiple =>
    apply Readable.of_members
    · simp
    · simpa using ⟨Readable.text _, Readable.text _, Readable.bool _⟩

/-- Only the metadata of a descriptor may stand in the way of reading it back. -/
theorem Descriptor.readable (d : Descriptor)
    (hmetadata : (Json.object (d.metadata.map fun e => (e.1, e.2.toJson))).Readable) :
    (ExprStyle.plain.descriptor d).Readable := by
  have hoperators : (Json.array (d.operators.map fun o => .text o.name)).Readable :=
    .array fun j hj => by
      obtain ⟨o, -, rfl⟩ := List.mem_map.1 hj
      exact .text _
  have hlist : ((d.selectList.map SelectList.toJson).getD .null).Readable := by
    cases d.selectList with
    | none => exact .null
    | some l => exact l.readable
  apply Readable.of_members
  · simp
  · simpa using ⟨Readable.text _, Readable.text _, Readable.ofText? _, Readable.ofText? _,
      Readable.text _, hoperators, hlist, Readable.text _, hmetadata, Readable.bool _⟩

theorem Descriptor.readable_unknown (scope : Scope) (name : Option String) :
    (ExprStyle.plain.descriptor (.unknown scope name)).Readable :=
  Descriptor.readable _ (.object List.nodup_nil nofun)

theorem Descriptor.readable_composite (scope : Scope) :
    (ExprStyle.plain.descriptor (.composite scope)).Readable :=
  Descriptor.readable _ (.object List.nodup_nil nofun)

theorem Attribute.readable_descriptorOf (l : Localizer) (language : String) {a : CatalogAttribute}
    (ha : IsShort a.id) : (ExprStyle.plain.descriptor (descriptorOf l language a)).Readable := by
  apply Descriptor.readable
  apply Readable.of_members
  · simp [descriptorOf]
  · simpa [descriptorOf] using ⟨Readable.int ha, Readable.text _⟩

/-! ## Expressions -/

/-- A condition that is written and read back. -/
structure Leaf.Writable (c : Leaf) : Prop where
  id : IsShort c.id
  descriptor : ∀ d, c.descriptor = some d → (ExprStyle.plain.descriptor d).Readable
  value : c.value.toJson.Readable
  notes : Notes.Writable c.notes

/-- The head of a group that is written and read back. -/
structure GroupHead.Writable (head : GroupHead) : Prop where
  id : IsShort head.id
  descriptor : (ExprStyle.plain.descriptor head.descriptor).Readable
  value : head.value.toJson.Readable
  notes : Notes.Writable head.notes
  refRuleId : ∀ n, head.refRuleId = some n → IsShort n

/-- An expression of which every condition and every head is written and read back. -/
inductive Expr.Writable : Expr → Prop where
  | leaf {c : Leaf} (h : c.Writable) : Writable (.leaf c)
  | group {head : GroupHead} {parts : List Expr} (hhead : head.Writable)
      (h : ∀ e ∈ parts, Writable e) : Writable (.group head parts)

theorem Leaf.Writable.readable {c : Leaf} (h : c.Writable) : (Expr.leaf c).toJson.Readable := by
  have hdescriptor : ((c.descriptor.map ExprStyle.plain.descriptor).getD .null).Readable := by
    cases hd : c.descriptor with
    | none => exact .null
    | some d => exact h.descriptor d hd
  apply Readable.of_members
  · simp [ExprStyle.leafMembers]
  · simpa [ExprStyle.leafMembers] using ⟨Readable.text _, Readable.int h.id, hdescriptor,
      Readable.text _, h.value, Readable.ofText? _, h.notes.readable⟩

theorem Expr.listToJsonIn_eq_map (style : ExprStyle) (es : List Expr) :
    listToJsonIn style es = es.map (toJsonIn style) := by
  induction es with
  | nil => rfl
  | cons e rest ih => rw [listToJsonIn, ih, List.map_cons]

theorem GroupHead.Writable.readable {head : GroupHead} (h : head.Writable) {parts : List Expr}
    (hparts : ∀ e ∈ parts, e.toJson.Readable) : (Expr.group head parts).toJson.Readable := by
  have hrule : (ExprStyle.plain.optionalNumber head.refRuleId).Readable := by
    cases hn : head.refRuleId with
    | none => exact .null
    | some n => exact .int (h.refRuleId n hn)
  have hall : (Json.array (Expr.listToJsonIn .plain parts)).Readable := by
    rw [Expr.listToJsonIn_eq_map]
    refine .array fun j hj => ?_
    obtain ⟨e, he, rfl⟩ := List.mem_map.1 hj
    exact hparts e he
  apply Readable.of_members
  · simp [ExprStyle.groupMembers]
  · simpa [ExprStyle.groupMembers] using ⟨Readable.text _, Readable.int h.id, h.descriptor,
      Readable.text _, h.value, Readable.ofText? _, h.notes.readable, Readable.text _,
      Readable.bool _, hrule, hall⟩

theorem Expr.Writable.readable {e : Expr} (h : e.Writable) : e.toJson.Readable := by
  induction h with
  | leaf h => exact h.readable
  | group hhead _ ih => exact hhead.readable ih

/-! ## Enrichment -/

section Enrichment

variable {a : Annotator} {language : String}

theorem writable_annotateLeaf {c : Leaf} (h : c.Writable) :
    (a.annotateLeaf language c).after.Writable := by
  have hmarked : (a.markUnsupported language c).Writable := by
    unfold Annotator.markUnsupported
    split
    · exact ⟨h.id, h.descriptor, h.value, h.notes.put (.text _)⟩
    · exact h
  simp only [Annotator.annotateLeaf]
  split
  · exact hmarked
  · split
    · exact hmarked
    · exact ⟨hmarked.id, hmarked.descriptor, hmarked.value,
        hmarked.notes.put (readable_selectedNote _)⟩

theorem writable_annotateParts {parts : List Expr} (h : ∀ e ∈ parts, e.Writable)
    (ih : ∀ e ∈ parts, (a.annotateExpr language e).after.Writable) :
    ∀ e ∈ (a.annotateParts language parts).after, e.Writable := by
  induction parts with
  | nil => exact nofun
  | cons e rest ihrest =>
    rw [List.forall_mem_cons] at h ih
    rw [Annotator.annotateParts]
    cases (a.annotateExpr language e).failure with
    | some f => exact List.forall_mem_cons.2 ⟨ih.1, h.2⟩
    | none => exact List.forall_mem_cons.2 ⟨ih.1, ihrest h.2 ih.2⟩

theorem writable_annotateExpr {e : Expr} (h : e.Writable) :
    (a.annotateExpr language e).after.Writable := by
  induction h with
  | leaf h =>
    rw [Annotator.annotateExpr]
    exact .leaf (writable_annotateLeaf h)
  | group hhead h ih =>
    rw [Annotator.annotateExpr]
    exact .group hhead (writable_annotateParts h ih)

theorem writable_annotate {language : Option String} {g : Group} (h : g.toExpr.Writable) :
    (a.annotate language g).after.toExpr.Writable := by
  cases h with
  | group hhead h =>
    exact .group hhead (writable_annotateParts h fun e he => writable_annotateExpr (h e he))

end Enrichment

/-! ## Compiled groups -/

/-- The numbers of stored rules and of the catalog fit the store. -/
structure Store.NumbersFit (st : Store) : Prop where
  rules : ∀ s ∈ st.ruleSets, ∀ r ∈ s.rules, Checked.fitsWord r.id = true
  catalog : ∀ a ∈ st.catalog, Checked.fitsWord a.id = true

theorem exists_of_mem_mapM {α β : Type} {f : α → Option β} {xs : List α} {ys : List β}
    (h : xs.mapM f = some ys) {y : β} (hy : y ∈ ys) : ∃ x ∈ xs, f x = some y := by
  induction xs generalizing ys with
  | nil =>
    cases h
    simp at hy
  | cons x rest ih =>
    rw [List.mapM_cons] at h
    obtain ⟨y', hx, h⟩ := Option.bind_eq_some_iff.1 h
    obtain ⟨more, hrest, h⟩ := Option.bind_eq_some_iff.1 h
    cases h
    rcases List.mem_cons.1 hy with rfl | hy
    · exact ⟨x, List.mem_cons_self, hx⟩
    · obtain ⟨x', hx', hfound⟩ := ih hrest hy
      exact ⟨x', List.mem_cons_of_mem _ hx', hfound⟩

theorem readable_ints {ids : List Int} (h : ∀ id ∈ ids, IsShort id) :
    (Value.list (ids.map .int)).toJson.Readable := by
  have hitems : Value.toJsonItems (ids.map .int) = ids.map .int := by
    clear h
    induction ids with
    | nil => rfl
    | cons id rest ih => rw [List.map_cons, Value.toJsonItems, ih, Value.toJson, List.map_cons]
  rw [Value.toJson, hitems]
  refine .array fun j hj => ?_
  obtain ⟨id, hid, rfl⟩ := List.mem_map.1 hj
  exact .int (h id hid)

namespace Attribute

/-- The value of a condition on selected values is a list of short numbers. -/
theorem readable_convert_intArray {raw : Option String} {value : Value}
    (h : ValueKind.intArray.convert raw = .ok value) : value.toJson.Readable := by
  have hids := toOption_convert_intArray raw
  rw [h] at hids
  obtain ⟨ids, hread, rfl⟩ := Option.map_eq_some_iff.1 hids.symm
  apply readable_ints
  intro id hid
  cases raw with
  | none =>
    cases hread
    simp at hid
  | some raw =>
    -- every number has been read from a text
    obtain ⟨item, -, hitem⟩ := exists_of_mem_mapM hread hid
    exact isShort_of_readInt? hitem

theorem readable_of_reads {v : Visitor} {st : Store} (hv : ReadsCatalog v st)
    (hfit : st.NumbersFit) {kinds : Collection} (hkinds : v.kinds = .ok kinds) {r : DraftRule}
    {d : Descriptor} {o : Operator} {value : Value} (h : v.Reads kinds r d o value) :
    (ExprStyle.plain.descriptor d).Readable ∧ value.toJson.Readable := by
  cases h with
  | known hd ho hallowed hvalue =>
    obtain ⟨l, language, rfl⟩ := hv.kinds hkinds
    obtain ⟨a, ha, rfl⟩ := List.mem_map.1 (Collection.mem_of_find? hd)
    have hid : Checked.fitsWord a.id = true := hfit.catalog a (List.mem_mergeSort.1 ha)
    exact ⟨readable_descriptorOf l language (isShort_of_fitsWord hid),
      readable_convert_intArray hvalue⟩
  | unknown hd ho =>
    refine ⟨Descriptor.readable_unknown _ _, ?_⟩
    cases r.value with
    | none => exact .null
    | some s => exact .text s

end Attribute

theorem GroupHead.Describes.writable {head : GroupHead} {scope : Scope} {s : DraftRuleSet}
    {rule : Option Int} (h : head.Describes scope s rule) (hid : ∀ n, s.id = some n → IsShort n)
    (hrule : ∀ n, rule = some n → IsShort n) : head.Writable where
  id := hid _ h.id
  descriptor := by
    rw [h.descriptor]
    exact Descriptor.readable_composite scope
  value := by
    rw [h.value]
    exact .int (hid _ h.id)
  notes := by
    rw [h.notes]
    exact .nil
  refRuleId := by
    rw [h.refRuleId]
    exact hrule

namespace Compiler

variable {c : Compiler}

theorem isShort_of_mem_toDraft (hfit : c.store.NumbersFit) {s : RuleSet} (hs : s ∈ c.store.ruleSets)
    {r : DraftRule} (hr : r ∈ s.toDraft.rules) {n : Int} (hn : r.id = some n) : IsShort n := by
  obtain ⟨stored, hstored, rfl⟩ := RuleSet.mem_toDraft_rules.1 hr
  cases hn
  exact isShort_of_fitsWord (hfit.rules s hs stored hstored)

theorem writable_of_rulesUnfold (hv : Attribute.ReadsCatalog c.visitor c.store)
    (hfit : c.store.NumbersFit) {rules : List DraftRule} {parts : List Expr}
    (h : c.RulesUnfold rules parts) (hrules : ∀ r ∈ rules, ∀ n, r.id = some n → IsShort n) :
    ∀ e ∈ parts, e.Writable := by
  induction h with
  | nil => exact nofun
  | condition href hkinds hread hid hrest ih =>
    rw [List.forall_mem_cons] at hrules
    obtain ⟨hdescriptor, hvalue⟩ := Attribute.readable_of_reads hv hfit hkinds hread
    refine List.forall_mem_cons.2 ⟨.leaf ?_, ih hrules.2⟩
    exact ⟨hrules.1 _ hid, fun d hd => Option.some.inj hd ▸ hdescriptor, hvalue, .nil⟩
  | unread href hkinds hread hrest ih =>
    rw [List.forall_mem_cons] at hrules
    exact ih hrules.2
  | @reference r rest s head below parts href hs hscope hhead hbelow hrest ihbelow ihrest =>
    rw [List.forall_mem_cons] at hrules
    obtain ⟨id, -, -, hfound⟩ := hs.named
    have hid : IsShort s.id := by
      rw [Store.id_of_findRuleSet hfound]
      exact isShort_of_fitsWord (Store.findRuleSet_eq_ok_iff.1 hfound).1
    have hwritable : head.Writable :=
      hhead.writable (fun n hn => Option.some.inj hn ▸ hid) hrules.1
    have hparts := ihbelow fun r hr n hn =>
      isShort_of_mem_toDraft hfit (Store.mem_of_findRuleSet hfound) hr hn
    exact List.forall_mem_cons.2 ⟨.group hwritable hparts, ihrest hrules.2⟩
  | unreferred href hs hrest ih =>
    rw [List.forall_mem_cons] at hrules
    exact ih hrules.2

/-- The group of a stored rule set is written and read back. -/
theorem writable_of_compileDraft (hv : Attribute.ReadsCatalog c.visitor c.store)
    (hfit : c.store.NumbersFit) {id : Int} {s : RuleSet} (hs : c.store.findRuleSet id = .ok (some s))
    {hidden : Bool} {g : Group} (h : (c.compileDraft hidden s.toDraft).result = .ok (some g)) :
    g.toExpr.Writable := by
  have hroot : (c.compileRoot hidden (.entity s.toDraft)).result = .ok (some g) := h
  obtain ⟨s', hdraft, -, -, hunfolds⟩ := unfolds_of_compileRoot hv.loadsPlainly hroot
  cases hdraft
  have hid : IsShort s.id := by
    rw [Store.id_of_findRuleSet hs]
    exact isShort_of_fitsWord (Store.findRuleSet_eq_ok_iff.1 hs).1
  refine .group (hunfolds.head.writable (fun n hn => Option.some.inj hn ▸ hid) nofun) ?_
  exact writable_of_rulesUnfold hv hfit hunfolds.parts fun r hr n hn =>
    isShort_of_mem_toDraft hfit (Store.mem_of_findRuleSet hs) hr hn

end Compiler

end Rulebook
