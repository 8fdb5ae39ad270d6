import Mathlib
import Rulebook.Proofs.Evaluation.ShortCircuit

/-!
# The order of parts

Evaluation stops as soon as a group is settled, so the order of its parts decides which of them are
looked at, and which failure comes first. Where every condition has an answer there is no failure to
come first, and then the order does not matter: expressions that differ in the order of parts only, in
groups at any level, answer the same.
-/

namespace Rulebook

/-! ## Answers in another order -/

namespace Connective

variable {k : Connective} {answers answers' : List (Result Bool)}

theorem combine_of_mem (hok : ∀ x ∈ answers, ∃ b, x = .ok b) (hmem : .ok k.stopsAt ∈ answers) :
    k.combine answers = .ok k.stopsAt := by
  have hne : answers.isEmpty = false := List.isEmpty_eq_false_iff.2 (List.ne_nil_of_mem hmem)
  rw [combine, if_neg (by simp [hne])]
  cases hfind : answers.find? k.isSettledBy with
  | none =>
    have hopen := List.find?_eq_none.1 hfind _ hmem
    simp [isSettledBy] at hopen
  | some x =>
    -- an answer that is no failure settles the group only if it is the one to stop at
    obtain ⟨b, rfl⟩ := hok x (List.mem_of_find?_eq_some hfind)
    have hsettled := List.find?_some hfind
    simp only [isSettledBy, beq_iff_eq] at hsettled
    rw [hsettled]
    rfl

theorem combine_of_not_mem (hok : ∀ x ∈ answers, ∃ b, x = .ok b) (hne : answers ≠ [])
    (hmem : .ok k.stopsAt ∉ answers) : k.combine answers = .ok (!k.stopsAt) := by
  have hfind : answers.find? k.isSettledBy = none := by
    rw [List.find?_eq_none]
    intro x hx hsettled
    obtain ⟨b, rfl⟩ := hok x hx
    simp only [isSettledBy, beq_iff_eq] at hsettled
    exact hmem (hsettled ▸ hx)
  rw [combine, if_neg (by simpa using hne), hfind]
  rfl

/-- Answers that are no failures may as well be combined in another order. -/
theorem combine_perm (h : answers.Perm answers') (hok : ∀ x ∈ answers, ∃ b, x = .ok b) :
    ∃ b, k.combine answers = .ok b ∧ k.combine answers' = .ok b := by
  have hok' : ∀ x ∈ answers', ∃ b, x = .ok b := fun x hx => hok x (h.mem_iff.2 hx)
  by_cases hmem : .ok k.stopsAt ∈ answers
  · exact ⟨_, combine_of_mem hok hmem, combine_of_mem hok' (h.mem_iff.1 hmem)⟩
  · have hmem' : .ok k.stopsAt ∉ answers' := fun hmem' => hmem (h.mem_iff.2 hmem')
    cases answers with
    | nil =>
      rw [List.nil_perm.1 h]
      exact ⟨true, rfl, rfl⟩
    | cons x rest =>
      have hne' : answers' ≠ [] := by
        rintro rfl
        simp at h
      exact ⟨_, combine_of_not_mem hok (List.cons_ne_nil x rest) hmem,
        combine_of_not_mem hok' hne' hmem'⟩

end Connective

/-! ## Parts in another order -/

namespace Expr

/-- The second expression is the first one with the parts of groups in another order, at any
level. -/
inductive Shuffles : Expr → Expr → Prop where
  | leaf (c : Leaf) : Shuffles (.leaf c) (.leaf c)
  | group (head : GroupHead) {parts moved parts' : List Expr} (hperm : parts.Perm moved)
      (h : List.Forall₂ Shuffles moved parts') : Shuffles (.group head parts) (.group head parts')

theorem Shuffles.refl (e : Expr) : Shuffles e e := by
  induction e using parts_induction with
  | leaf c => exact .leaf c
  | group head parts ih => exact .group head (.refl parts) (List.forall₂_same.2 ih)

/-- Where every condition has an answer, expressions that differ in the order of parts only have the
same one. -/
theorem outcome_eq_of_shuffles {processors : Registry Processor} {e e' : Expr}
    (h : Shuffles e e')
    (hleaves : ∀ c ∈ e.leaves, ∃ b, ((leaf c).run processors).outcome = .ok b) :
    ∃ b, (e.run processors).outcome = .ok b ∧ (e'.run processors).outcome = .ok b := by
  induction e using parts_induction generalizing e' with
  | leaf c =>
    cases h with
    | leaf =>
      obtain ⟨b, hb⟩ := hleaves c (by simp [leaves_leaf])
      exact ⟨b, hb, hb⟩
  | group head parts ih =>
    cases h with
    | @group _ _ moved parts' hperm hparts =>
      rw [leaves_group] at hleaves
      have hpart : ∀ e ∈ parts, ∀ e', Shuffles e e' →
          ∃ b, (e.run processors).outcome = .ok b ∧ (e'.run processors).outcome = .ok b :=
        fun e he e' hshuffles => ih e he hshuffles fun c hc =>
          hleaves c (List.mem_flatMap.2 ⟨e, he, hc⟩)
      have hok : ∀ x ∈ parts.map fun e => (e.run processors).outcome, ∃ b, x = .ok b := by
        intro x hx
        obtain ⟨e, he, rfl⟩ := List.mem_map.1 hx
        obtain ⟨b, hb, -⟩ := hpart e he e (.refl e)
        exact ⟨b, hb⟩
      -- the parts in their new order answer as those that they are made from
      have hmoved : (moved.map fun e => (e.run processors).outcome) =
          parts'.map fun e => (e.run processors).outcome := by
        rw [← List.forall₂_eq_eq_eq, List.forall₂_map_left_iff, List.forall₂_map_right_iff]
        have hpairs := (List.forall₂_and_left moved parts').2
          ⟨fun e he => hperm.mem_iff.2 he, hparts⟩
        refine hpairs.imp ?_
        rintro e e' ⟨he, hshuffles⟩
        obtain ⟨b, hb, hb'⟩ := hpart e he e' hshuffles
        rw [hb, hb']
      rw [outcome_run_group, outcome_run_group, ← hmoved]
      exact Connective.combine_perm (hperm.map _) hok

end Expr

end Rulebook
