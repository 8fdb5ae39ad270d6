import Mathlib.Data.List.Basic
import Rulebook.Evaluation.Run

/-!
# Short-circuit evaluation

`Decides` says what deciding an expression hands to processors, and what it comes to, by rules: the
parts of a group are decided from the left, as long as each leaves the group open. `Reaches` says
which conditions this gets to, and where they stand.

A run does what the rules say, and nothing else. It depends on the conditions that are reached only:
each failure is the failure of one of them, and all others may be replaced.
-/

namespace Rulebook

/-! ## Combining answers -/

namespace Connective

variable {k : Connective} {x : Result Bool}

/-- An answer after which no further one is asked for: a failure, or one that decides. -/
def isSettledBy (k : Connective) : Result Bool → Bool
  | .error _ => true
  | .ok b => b == k.stopsAt

/-- The answer of a group: the first one that settles it, if there is one. Without answers it
holds. -/
def combine (k : Connective) (answers : List (Result Bool)) : Result Bool :=
  if answers.isEmpty then .ok true else (answers.find? k.isSettledBy).getD (.ok (!k.stopsAt))

theorem isSettledBy_eq_false_iff : k.isSettledBy x = false ↔ x = .ok (!k.stopsAt) := by
  cases x with
  | error f => simp [isSettledBy]
  | ok b => cases b <;> cases hk : k.stopsAt <;> simp [isSettledBy, hk]

theorem isSettledBy_iff : k.isSettledBy x = true ↔ x ≠ .ok (!k.stopsAt) := by
  rw [← Bool.not_eq_false, ne_eq, isSettledBy_eq_false_iff]

end Connective

namespace Expr

/-- What is shown of an expression by what is shown of the parts of groups. -/
@[elab_as_elim]
theorem parts_induction {motive : Expr → Prop} (leaf : ∀ c, motive (.leaf c))
    (group : ∀ head parts, (∀ e ∈ parts, motive e) → motive (.group head parts)) (e : Expr) :
    motive e := by
  refine @Expr.rec motive (fun parts => ∀ e ∈ parts, motive e) leaf group nofun ?_ e
  intro e rest he hrest e' hmem
  rcases List.mem_cons.1 hmem with rfl | hmem
  · exact he
  · exact hrest e' hmem

/-! ## Parts of a group -/

section Parts

variable {processors : Registry Processor} {k : Connective} {head : GroupHead} {e : Expr}
  {before parts rest : List Expr}

theorem runParts_cons_of_open (h : (e.run processors).outcome = .ok (!k.stopsAt)) :
    runParts processors k (e :: rest) =
      (runParts processors k rest).after (e.run processors).trace := by
  have hne : (!k.stopsAt) ≠ k.stopsAt := by cases k <;> decide
  rw [runParts]
  simp [h, hne]

theorem runParts_cons_of_settled (h : (e.run processors).outcome ≠ .ok (!k.stopsAt)) :
    runParts processors k (e :: rest) = e.run processors := by
  rw [runParts]
  cases hfirst : (e.run processors).outcome with
  | error f => rfl
  | ok b =>
    -- an answer that does not leave the group open is the one at which it stops
    have hb : b = k.stopsAt := by
      rw [hfirst] at h
      cases b <;> cases hk : k.stopsAt <;> simp_all
    simp [hb]

theorem runParts_append_of_open
    (h : ∀ e ∈ before, (e.run processors).outcome = .ok (!k.stopsAt)) :
    runParts processors k (before ++ rest) =
      (runParts processors k rest).after (before.flatMap fun e => (e.run processors).trace) := by
  induction before with
  | nil => rfl
  | cons e before ih =>
    rw [List.forall_mem_cons] at h
    rw [List.cons_append, runParts_cons_of_open h.1, ih h.2, List.flatMap_cons]
    simp [Run.after]

theorem runParts_of_open (h : ∀ e ∈ parts, (e.run processors).outcome = .ok (!k.stopsAt)) :
    runParts processors k parts =
      ⟨parts.flatMap fun e => (e.run processors).trace, .ok (!k.stopsAt)⟩ := by
  have happend : runParts processors k (parts ++ []) = _ := runParts_append_of_open h
  rw [List.append_nil] at happend
  rw [happend, runParts]
  simp [Run.after, Run.done]

theorem run_group_nil : (group head []).run processors = .done (.ok true) := by
  rw [run]
  rfl

theorem run_group_of_ne_nil (h : parts ≠ []) :
    (group head parts).run processors = runParts processors head.connective parts := by
  cases parts with
  | nil => exact absurd rfl h
  | cons e rest =>
    rw [run]
    rfl

/-- The parts of a group leave it open one and all, or there is a first that settles it. -/
theorem open_or_settled (processors : Registry Processor) (k : Connective) (parts : List Expr) :
    (∀ e ∈ parts, (e.run processors).outcome = .ok (!k.stopsAt)) ∨
      ∃ before e after, parts = before ++ e :: after ∧
        (∀ e' ∈ before, (e'.run processors).outcome = .ok (!k.stopsAt)) ∧
        (e.run processors).outcome ≠ .ok (!k.stopsAt) := by
  cases hfind : parts.find? fun e => k.isSettledBy (e.run processors).outcome with
  | none =>
    left
    intro e he
    have hopen := List.find?_eq_none.1 hfind e he
    exact Connective.isSettledBy_eq_false_iff.1 (by simpa using hopen)
  | some e =>
    right
    obtain ⟨hsettled, before, after, rfl, hbefore⟩ := List.find?_eq_some_iff_append.1 hfind
    refine ⟨before, e, after, rfl, fun e' he' => ?_, Connective.isSettledBy_iff.1 hsettled⟩
    exact Connective.isSettledBy_eq_false_iff.1 (by simpa using hbefore e' he')

theorem run_group_of_settled {after : List Expr}
    (hbefore : ∀ e' ∈ before, (e'.run processors).outcome = .ok (!head.connective.stopsAt))
    (h : (e.run processors).outcome ≠ .ok (!head.connective.stopsAt)) :
    (group head (before ++ e :: after)).run processors =
      (e.run processors).after (before.flatMap fun e' => (e'.run processors).trace) := by
  rw [run_group_of_ne_nil (by simp), runParts_append_of_open hbefore, runParts_cons_of_settled h]

/-- A group answers as its connective combines the answers of its parts. -/
theorem outcome_run_group (processors : Registry Processor) (head : GroupHead)
    (parts : List Expr) :
    ((group head parts).run processors).outcome =
      head.connective.combine (parts.map fun e => (e.run processors).outcome) := by
  cases parts with
  | nil =>
    rw [run_group_nil]
    rfl
  | cons e rest =>
    rw [run_group_of_ne_nil (List.cons_ne_nil e rest)]
    show _ = ((List.map _ (e :: rest)).find? _).getD _
    induction e :: rest with
    | nil => rfl
    | cons e rest ih =>
      rw [List.map_cons]
      by_cases h : (e.run processors).outcome = .ok (!head.connective.stopsAt)
      · have hopen : ¬head.connective.isSettledBy (e.run processors).outcome = true := by
          simp [Connective.isSettledBy_eq_false_iff.2 h]
        rw [runParts_cons_of_open h, List.find?_cons_of_neg hopen]
        exact ih
      · rw [runParts_cons_of_settled h, List.find?_cons_of_pos (Connective.isSettledBy_iff.2 h)]
        rfl

end Parts

end Expr

/-! ## Rules -/

/-- What deciding an expression hands to processors, in order, and what it comes to. -/
inductive Decides (processors : Registry Processor) : Expr → List Leaf → Result Bool → Prop where
  | undescribed {c : Leaf} (hd : c.descriptor = none) :
      Decides processors (.leaf c) [] (.fail (.missingDescriptor c.id c.rawValue))
  /-- A condition with the descriptor of groups has nothing to decide. -/
  | composite {c : Leaf} {d : Descriptor} (hd : c.descriptor = some d)
      (hkey : d.processor = Descriptor.compositeProcessor) : Decides processors (.leaf c) [] (.ok true)
  | unregistered {c : Leaf} {d : Descriptor} (hd : c.descriptor = some d)
      (hkey : d.processor ≠ Descriptor.compositeProcessor)
      (hp : d.processor = "" ∨ processors.lookup d.processor = none) :
      Decides processors (.leaf c) [] (.fail (.processorNotFound (some d.processor)))
  /-- The processor answers or fails, and this is what comes out. -/
  | processed {c : Leaf} {d : Descriptor} {p : Processor} (hd : c.descriptor = some d)
      (hkey : d.processor ≠ Descriptor.compositeProcessor) (hnamed : d.processor ≠ "")
      (hp : processors.lookup d.processor = some p) : Decides processors (.leaf c) [c] (p c)
  | unconditional {head : GroupHead} : Decides processors (.group head []) [] (.ok true)
  /-- The first part that gives the answer at which the group stops, or fails, settles it; the parts
  after it are not looked at. -/
  | settled {head : GroupHead} {before after : List Expr} {e : Expr} {traces : Expr → List Leaf}
      {trace : List Leaf} {x : Result Bool}
      (hbefore : ∀ e' ∈ before, Decides processors e' (traces e') (.ok (!head.connective.stopsAt)))
      (h : Decides processors e trace x) (hx : x ≠ .ok (!head.connective.stopsAt)) :
      Decides processors (.group head (before ++ e :: after)) (before.flatMap traces ++ trace) x
  | exhausted {head : GroupHead} {parts : List Expr} {traces : Expr → List Leaf} (hne : parts ≠ [])
      (h : ∀ e ∈ parts, Decides processors e (traces e) (.ok (!head.connective.stopsAt))) :
      Decides processors (.group head parts) (parts.flatMap traces)
        (.ok (!head.connective.stopsAt))

namespace Registry

variable {α : Type} {r : Registry α} {key : String}

theorem resolve_of_unregistered (h : key = "" ∨ r.lookup key = none) :
    r.resolve (some key) = .error (.processorNotFound (some key)) := by
  by_cases hkey : key = ""
  · simp [resolve, hkey]
  · have hp : r.lookup key = none := h.resolve_left hkey
    simp [resolve, hkey, hp]

theorem resolve_of_registered {a : α} (hkey : key ≠ "") (h : r.lookup key = some a) :
    r.resolve (some key) = .ok a := by
  simp [resolve, hkey, h]

end Registry

section Rules

variable {processors : Registry Processor} {e : Expr} {trace : List Leaf} {x : Result Bool}

theorem Leaf.decides (processors : Registry Processor) (c : Leaf) :
    Decides processors (.leaf c) (c.run processors).trace (c.run processors).outcome := by
  unfold Leaf.run
  cases hd : c.descriptor with
  | none => exact .undescribed hd
  | some d =>
    by_cases hkey : d.processor = Descriptor.compositeProcessor
    · have hcomposite : d.isComposite = true := by simp [Descriptor.isComposite, hkey]
      simp only [hcomposite, if_true]
      exact .composite hd hkey
    · have hcomposite : d.isComposite = false := by simp [Descriptor.isComposite, hkey]
      simp only [hcomposite, Bool.false_eq_true, if_false]
      by_cases hp : d.processor = "" ∨ processors.lookup d.processor = none
      · rw [Registry.resolve_of_unregistered hp]
        exact .unregistered hd hkey hp
      · obtain ⟨hnamed, hp⟩ := not_or.1 hp
        obtain ⟨p, hp⟩ := Option.ne_none_iff_exists'.1 hp
        rw [Registry.resolve_of_registered hnamed hp]
        exact .processed hd hkey hnamed hp

/-- Every expression is decided, by its run. -/
theorem Expr.decides (processors : Registry Processor) (e : Expr) :
    Decides processors e (e.run processors).trace (e.run processors).outcome := by
  induction e using Expr.parts_induction with
  | leaf c =>
    rw [Expr.run]
    exact c.decides processors
  | group head parts ih =>
    rcases open_or_settled processors head.connective parts with
      hopen | ⟨before, e, after, rfl, hbefore, hsettled⟩
    · -- a group without parts is a case of its own: with "or" it would not hold otherwise
      by_cases hne : parts = []
      · subst hne
        rw [run_group_nil]
        exact .unconditional
      · rw [run_group_of_ne_nil hne, runParts_of_open hopen]
        apply Decides.exhausted hne
        intro e he
        rw [← hopen e he]
        exact ih e he
    · rw [run_group_of_settled hbefore hsettled]
      apply Decides.settled _ (ih e (by simp)) hsettled
      intro e' he'
      rw [← hbefore e' he']
      exact ih e' (List.mem_append_left _ he')

/-- What the rules decide is what the run does. -/
theorem Decides.run_eq (h : Decides processors e trace x) : e.run processors = ⟨trace, x⟩ := by
  -- one case for each rule; those of groups get the runs of the parts by induction
  induction h with
  | undescribed hd => simp [Expr.run, Leaf.run, hd, Run.done]
  | composite hd hkey => simp [Expr.run, Leaf.run, hd, Run.done, Descriptor.isComposite, hkey]
  | unregistered hd hkey hp =>
    simp [Expr.run, Leaf.run, hd, Run.done, Descriptor.isComposite, hkey,
      Registry.resolve_of_unregistered hp, Result.fail]
  | processed hd hkey hnamed hp =>
    simp [Expr.run, Leaf.run, hd, Descriptor.isComposite, hkey,
      Registry.resolve_of_registered hnamed hp]
  | unconditional => exact Expr.run_group_nil
  | @settled head before after e traces trace x hbefore h hx ihbefore ih =>
    have hopen : ∀ e' ∈ before, (e'.run processors).outcome = .ok (!head.connective.stopsAt) :=
      fun e' he' => by rw [ihbefore e' he']
    have htraces : (before.flatMap fun e' => (e'.run processors).trace) = before.flatMap traces :=
      List.flatMap_congr fun e' he' => by rw [ihbefore e' he']
    rw [Expr.run_group_of_settled hopen (by rwa [ih]), htraces, ih]
    rfl
  | @exhausted head parts traces hne h ih =>
    have hopen : ∀ e ∈ parts, (e.run processors).outcome = .ok (!head.connective.stopsAt) :=
      fun e he => by rw [ih e he]
    have htraces : (parts.flatMap fun e => (e.run processors).trace) = parts.flatMap traces :=
      List.flatMap_congr fun e he => by rw [ih e he]
    rw [Expr.run_group_of_ne_nil hne, Expr.runParts_of_open hopen, htraces]

/-- The rules leave no choice, and the run does what they say. -/
theorem Expr.run_eq_iff_decides : e.run processors = ⟨trace, x⟩ ↔ Decides processors e trace x := by
  refine ⟨fun h => ?_, Decides.run_eq⟩
  have hdecides := e.decides processors
  rwa [h] at hdecides

end Rules

/-! ## Conditions of an expression -/

/-- The way to a condition: the places of the parts that lead to it. -/
abbrev Address := List Nat

namespace Expr

/-- The condition that an expression is. -/
def leaf? : Expr → Option Leaf
  | .leaf c => some c
  | .group _ _ => none

/-- The conditions of an expression, in the order in which it is walked through. -/
def leaves (e : Expr) : List Leaf := e.withDescendants.filterMap leaf?

mutual

/-- The expression with each condition replaced by what is made of it and its address. -/
def relabel (f : Address → Leaf → Leaf) : Expr → Expr
  | .leaf c => .leaf (f [] c)
  | .group head parts => .group head (relabelParts f 0 parts)

/-- The parts of a group, the first of them at a place, with each condition replaced. -/
def relabelParts (f : Address → Leaf → Leaf) : Nat → List Expr → List Expr
  | _, [] => []
  | n, e :: rest => relabel (fun a => f (n :: a)) e :: relabelParts f (n + 1) rest

end

theorem leaves_leaf (c : Leaf) : (leaf c).leaves = [c] := by
  simp [leaves, withDescendants, leaf?]

theorem listDescendants_eq_flatMap (es : List Expr) :
    listDescendants es = es.flatMap withDescendants := by
  induction es with
  | nil => rw [listDescendants, List.flatMap_nil]
  | cons e rest ih => rw [listDescendants, List.flatMap_cons, ih]

theorem leaves_group (head : GroupHead) (parts : List Expr) :
    (group head parts).leaves = parts.flatMap leaves := by
  rw [leaves, withDescendants, List.filterMap_cons_none (by rfl), listDescendants_eq_flatMap,
    List.filterMap_flatMap]
  rfl

end Expr

/-- Deciding an expression comes to the condition at an address: on the way to it, every part before
the one that leads there leaves its group open. -/
inductive Reaches (processors : Registry Processor) : Expr → Address → Leaf → Prop where
  | here {c : Leaf} : Reaches processors (.leaf c) [] c
  | part {head : GroupHead} {before after : List Expr} {e : Expr} {a : Address} {c : Leaf}
      (hbefore : ∀ e' ∈ before, (e'.run processors).outcome = .ok (!head.connective.stopsAt))
      (h : Reaches processors e a c) :
      Reaches processors (.group head (before ++ e :: after)) (before.length :: a) c

section Reached

variable {processors : Registry Processor} {e : Expr} {a : Address} {c : Leaf}

/-- The trace of a part that is reached is in that of its group. -/
theorem Expr.trace_subset_of_open {head : GroupHead} {before after : List Expr}
    (hbefore : ∀ e' ∈ before, (e'.run processors).outcome = .ok (!head.connective.stopsAt)) :
    (e.run processors).trace ⊆
      ((group head (before ++ e :: after)).run processors).trace := by
  rw [run_group_of_ne_nil (by simp), runParts_append_of_open hbefore]
  by_cases h : (e.run processors).outcome = .ok (!head.connective.stopsAt)
  · rw [runParts_cons_of_open h]
    simp [Run.after]
  · rw [runParts_cons_of_settled h]
    simp [Run.after]

theorem Reaches.trace_subset (h : Reaches processors e a c) :
    (c.run processors).trace ⊆ (e.run processors).trace := by
  induction h with
  | here => exact fun _ h => by rwa [Expr.run]
  | part hbefore h ih => exact List.Subset.trans ih (Expr.trace_subset_of_open hbefore)

/-- The failure of a condition that is reached is the failure of the whole. -/
theorem Reaches.outcome_eq_error (h : Reaches processors e a c) {f : Failure}
    (hf : (c.run processors).outcome = .error f) : (e.run processors).outcome = .error f := by
  induction h with
  | here => rwa [Expr.run]
  | part hbefore h ih =>
    -- a failure leaves no group open
    rw [Expr.run_group_of_settled hbefore (by simp [ih hf])]
    exact ih hf

/-- A condition that a group hands over is handed over by a part that is looked at. -/
theorem Expr.exists_part_of_mem_trace {k : Connective} {parts : List Expr}
    (h : c ∈ (runParts processors k parts).trace) :
    ∃ before e after, parts = before ++ e :: after ∧
      (∀ e' ∈ before, (e'.run processors).outcome = .ok (!k.stopsAt)) ∧
      c ∈ (e.run processors).trace := by
  induction parts with
  | nil =>
    rw [runParts] at h
    cases h
  | cons e rest ih =>
    by_cases hopen : (e.run processors).outcome = .ok (!k.stopsAt)
    · rw [runParts_cons_of_open hopen] at h
      rcases List.mem_append.1 h with h | h
      · exact ⟨[], e, rest, rfl, nofun, h⟩
      · obtain ⟨before, e', after, rfl, hbefore, hc⟩ := ih h
        exact ⟨e :: before, e', after, rfl, List.forall_mem_cons.2 ⟨hopen, hbefore⟩, hc⟩
    · rw [runParts_cons_of_settled hopen] at h
      exact ⟨[], e, rest, rfl, nofun, h⟩

theorem Expr.exists_reaches_of_mem_trace (h : c ∈ (e.run processors).trace) :
    ∃ a c', Reaches processors e a c' ∧ c ∈ (c'.run processors).trace := by
  induction e using Expr.parts_induction with
  | leaf c' =>
    rw [Expr.run] at h
    exact ⟨[], c', .here, h⟩
  | group head parts ih =>
    by_cases hne : parts = []
    · subst hne
      rw [run_group_nil] at h
      cases h
    · rw [run_group_of_ne_nil hne] at h
      obtain ⟨before, e, after, rfl, hbefore, hc⟩ := exists_part_of_mem_trace h
      obtain ⟨a, c', hreaches, hc⟩ := ih e (by simp) hc
      exact ⟨before.length :: a, c', .part hbefore hreaches, hc⟩

theorem Expr.exists_reaches_of_error {f : Failure} (h : (e.run processors).outcome = .error f) :
    ∃ a c, Reaches processors e a c ∧ (c.run processors).outcome = .error f := by
  induction e using Expr.parts_induction with
  | leaf c =>
    rw [Expr.run] at h
    exact ⟨[], c, .here, h⟩
  | group head parts ih =>
    rcases open_or_settled processors head.connective parts with
      hopen | ⟨before, e, after, rfl, hbefore, hsettled⟩
    · by_cases hne : parts = []
      · subst hne
        rw [run_group_nil] at h
        cases h
      · rw [run_group_of_ne_nil hne, runParts_of_open hopen] at h
        cases h
    · rw [run_group_of_settled hbefore hsettled] at h
      obtain ⟨a, c, hreaches, hc⟩ := ih e (by simp) h
      exact ⟨before.length :: a, c, .part hbefore hreaches, hc⟩

/-- A condition hands over itself, if anything. -/
theorem Leaf.trace_eq_or (processors : Registry Processor) (c : Leaf) :
    (c.run processors).trace = [] ∨ (c.run processors).trace = [c] := by
  have hdecides := c.decides processors
  generalize (c.run processors).trace = trace, (c.run processors).outcome = x at hdecides
  cases hdecides <;> simp

theorem Leaf.mem_trace_iff {c' : Leaf} :
    c' ∈ (c.run processors).trace ↔ c' = c ∧ (c.run processors).trace = [c] := by
  rcases c.trace_eq_or processors with h | h <;> simp [h]

theorem Expr.runParts_trace_sublist {k : Connective} {parts : List Expr}
    (h : ∀ e ∈ parts, (e.run processors).trace.Sublist e.leaves) :
    (runParts processors k parts).trace.Sublist (parts.flatMap leaves) := by
  induction parts with
  | nil => rw [runParts]; exact List.nil_sublist _
  | cons e rest ih =>
    rw [List.forall_mem_cons] at h
    rw [List.flatMap_cons]
    by_cases hopen : (e.run processors).outcome = .ok (!k.stopsAt)
    · rw [runParts_cons_of_open hopen]
      exact h.1.append (ih h.2)
    · rw [runParts_cons_of_settled hopen]
      exact h.1.trans (List.sublist_append_left _ _)

theorem Expr.trace_sublist_leaves (processors : Registry Processor) (e : Expr) :
    (e.run processors).trace.Sublist e.leaves := by
  induction e using Expr.parts_induction with
  | leaf c =>
    rw [leaves_leaf, Expr.run]
    rcases c.trace_eq_or processors with h | h <;> simp [h]
  | group head parts ih =>
    rw [leaves_group]
    by_cases hne : parts = []
    · subst hne
      rw [run_group_nil]
      exact List.nil_sublist _
    · rw [run_group_of_ne_nil hne]
      exact runParts_trace_sublist ih

end Reached

/-! ## Conditions that are not reached -/

section Relabelled

variable {processors processors' : Registry Processor} {f : Address → Leaf → Leaf}

theorem Expr.runParts_relabelParts {k : Connective} {parts : List Expr} {n : Nat}
    (ih : ∀ e ∈ parts, ∀ f : Address → Leaf → Leaf,
      (∀ a c, Reaches processors e a c → (f a c).run processors' = c.run processors) →
        (e.relabel f).run processors' = e.run processors)
    (h : ∀ before e after a c, parts = before ++ e :: after →
      (∀ e' ∈ before, (e'.run processors).outcome = .ok (!k.stopsAt)) → Reaches processors e a c →
        (f ((n + before.length) :: a) c).run processors' = c.run processors) :
    runParts processors' k (relabelParts f n parts) = runParts processors k parts := by
  -- the place of the first part goes up by one with each part that is left behind
  induction parts generalizing n with
  | nil => rw [relabelParts, runParts, runParts]
  | cons e rest ihrest =>
    rw [List.forall_mem_cons] at ih
    have hfirst : (e.relabel fun a => f (n :: a)).run processors' = e.run processors :=
      ih.1 _ fun a c hreaches => h [] e rest a c rfl nofun hreaches
    rw [relabelParts]
    by_cases hopen : (e.run processors).outcome = .ok (!k.stopsAt)
    · rw [runParts_cons_of_open (hfirst ▸ hopen), runParts_cons_of_open hopen, hfirst,
        ihrest ih.2]
      -- what is reached in the rest is reached after the first part
      rintro before e' after a c rfl hbefore hreaches
      have hlater := h (e :: before) e' after a c rfl (List.forall_mem_cons.2 ⟨hopen, hbefore⟩)
        hreaches
      rwa [List.length_cons, ← Nat.add_assoc, Nat.add_right_comm] at hlater
    · -- nothing of the rest is looked at, on either side
      rw [runParts_cons_of_settled (hfirst ▸ hopen), runParts_cons_of_settled hopen, hfirst]

/-- Whatever becomes of the conditions that are not reached, the run remains the same. -/
theorem Expr.run_relabel {e : Expr}
    (h : ∀ a c, Reaches processors e a c → (f a c).run processors' = c.run processors) :
    (e.relabel f).run processors' = e.run processors := by
  induction e using Expr.parts_induction generalizing f with
  | leaf c =>
    rw [relabel, Expr.run, Expr.run]
    exact h [] c .here
  | group head parts ih =>
    rw [relabel]
    by_cases hne : parts = []
    · subst hne
      rw [relabelParts, run_group_nil, run_group_nil]
    · have hne' : relabelParts f 0 parts ≠ [] := by
        cases parts with
        | nil => exact absurd rfl hne
        | cons e rest =>
          rw [relabelParts]
          exact List.cons_ne_nil _ _
      rw [run_group_of_ne_nil hne, run_group_of_ne_nil hne']
      apply runParts_relabelParts fun e he f hf => ih e he hf
      rintro before e after a c rfl hbefore hreaches
      rw [Nat.zero_add]
      exact h _ c (.part hbefore hreaches)

end Relabelled

/-! ## Evaluation -/

/-- The group that an expression is. -/
def Expr.group? : Expr → Option Group
  | .leaf _ => none
  | .group head parts => some ⟨head, parts⟩

/-- Evaluation goes from left to right, and no further than it takes. -/
structure ShortCircuits (processors : Registry Processor) (e : Expr) : Prop where
  /-- The run does what the rules say. -/
  decided : ∀ trace x, e.run processors = ⟨trace, x⟩ ↔ Decides processors e trace x
  /-- Conditions are handed over in the order in which the expression is walked through. -/
  inOrder : (e.run processors).trace.Sublist e.leaves
  /-- The conditions that are handed over are those reached that have a processor. -/
  handed : ∀ c, c ∈ (e.run processors).trace ↔
    ∃ a, Reaches processors e a c ∧ (c.run processors).trace = [c]
  /-- Evaluation fails exactly as a condition that is reached does. -/
  failed : ∀ f, (e.run processors).outcome = .error f ↔
    ∃ a c, Reaches processors e a c ∧ (c.run processors).outcome = .error f
  /-- With the conditions that are not reached replaced by any others, and with other processors
  that treat those that are reached the same, the run is the same. -/
  independent : ∀ (processors' : Registry Processor) (f : Address → Leaf → Leaf),
    (∀ a c, Reaches processors e a c → (f a c).run processors' = c.run processors) →
      (e.relabel f).run processors' = e.run processors

/-- Every expression is decided from left to right and no further than it takes. In place of a bound
group, an expression that is a group is decided itself. -/
theorem run_short_circuits (processors : Registry Processor) (e : Expr) (bound : Group) :
    ShortCircuits processors e ∧
      bound.runFor processors (some e) = (e.group?.getD bound).run processors ∧
      bound.runFor processors none = bound.run processors := by
  refine ⟨⟨fun trace x => Expr.run_eq_iff_decides, e.trace_sublist_leaves processors, fun c => ?_,
    fun f => ?_, fun processors' f h => Expr.run_relabel h⟩, ?_, rfl⟩
  · constructor
    · intro h
      obtain ⟨a, c', hreaches, hc⟩ := Expr.exists_reaches_of_mem_trace h
      obtain ⟨rfl, htrace⟩ := Leaf.mem_trace_iff.1 hc
      exact ⟨a, hreaches, htrace⟩
    · rintro ⟨a, hreaches, htrace⟩
      exact hreaches.trace_subset (by simp [htrace])
  · constructor
    · exact Expr.exists_reaches_of_error
    · rintro ⟨a, c, hreaches, hf⟩
      exact hreaches.outcome_eq_error hf
  · -- a group is decided itself, and in place of a condition the bound group is
    cases e with
    | leaf c => rfl
    | group head parts => rfl

end Rulebook
