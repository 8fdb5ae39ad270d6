import Mathlib
import Rulebook.Proofs.Compile.Agreement
import Rulebook.Proofs.Compile.Chain

/-!
# The greatest depth

The greatest depth decides how many rule sets may stand on a path, and nothing else. Where it is not
exceeded, a greater one changes nothing: the same rule sets are looked up, opened and left out, and
an error names the same rule set and the same path.
-/

namespace Rulebook.Compiler

/-- The failures of rule sets that are nested too deeply. -/
def IsTooDeep (f : Failure) : Prop := ∃ id depth, f = .rule (.depthExceeded id depth)

theorem IsTooDeep.isLocal {f : Failure} (h : IsTooDeep f) : f.isLocal = false := by
  obtain ⟨id, depth, rfl⟩ := h
  rfl

/-- With a greater depth the rule sets below a path compile the same, unless they are nested too
deeply for the smaller one. -/
theorem resultBelow_sameUnless_tooDeep (c : Compiler) {depth depth' left left' : Nat}
    (hleft : left ≤ left') (path : List Int) (hidden : Bool) (id : Int) :
    SameUnless IsTooDeep ((c.withDepth depth).resultBelow left path hidden id)
      ((c.withDepth depth').resultBelow left' path hidden id) :=
  resultBelow_sameUnless_deeper (c := c.withDepth depth) (fun _ hf => hf.isLocal)
    (fun id depth => ⟨id, depth, rfl⟩) (.inl rfl) hleft hidden id

theorem compileRoot_sameUnless_tooDeep (c : Compiler) (hidden : Bool) (root : Root)
    {depth depth' : Nat} (hle : depth ≤ depth') :
    SameUnless IsTooDeep ((c.withDepth depth).compileRoot hidden root).result
      ((c.withDepth depth').compileRoot hidden root).result := by
  cases root with
  | number id => exact resultBelow_sameUnless_tooDeep c hle [] hidden id
  | entity s =>
    -- a rule set at hand takes one nesting itself, and what is left is no less than before
    have hleft : depth - 1 ≤ depth' - 1 := Nat.sub_le_sub_right hle 1
    refine compileDraft_sameUnless rfl ?_
    exact groupParts_sameUnless_of_nested (fun _ hf => hf.isLocal)
      (fun id => resultBelow_sameUnless_tooDeep c hleft s.id.toList false id) s.rules

/-- A greatest depth that is not exceeded may as well be greater: with any greater one compilation
answers the same, be it a group, nothing or an error. -/
theorem greater_depth_compiles_alike (c : Compiler) (hidden : Bool) (root : Root)
    {depth depth' : Nat} (hle : depth ≤ depth')
    (hdepth : ∀ id d, ((c.withDepth depth).compileRoot hidden root).result ≠
      .fail (.depthExceeded id d)) :
    ((c.withDepth depth').compileRoot hidden root).result =
      ((c.withDepth depth).compileRoot hidden root).result := by
  rcases compileRoot_sameUnless_tooDeep c hidden root hle with hsame | ⟨f, ⟨id, d, rfl⟩, hf⟩
  · exact hsame.symm
  · exact absurd hf (hdepth id d)

/-- The circle of two rule sets is found with two nestings, and with the same path however many are
allowed. -/
theorem circle_compiles_alike : 2 ≤ 16 ∧
    (∀ id d, ((circle.withDepth 2).compileRoot true (.number 1)).result ≠
      .fail (.depthExceeded id d)) ∧
    ((circle.withDepth 16).compileRoot true (.number 1)).result = .fail (.cycle 1 [1, 2]) := by
  have hle : 2 ≤ 16 := by decide
  have hcycle : ((circle.withDepth 2).compileRoot true (.number 1)).result =
      .fail (.cycle 1 [1, 2]) := by cbv
  have hdepth : ∀ id d, ((circle.withDepth 2).compileRoot true (.number 1)).result ≠
      .fail (.depthExceeded id d) := by
    intro id d h
    rw [hcycle] at h
    cases h
  exact ⟨hle, hdepth, (greater_depth_compiles_alike circle true (.number 1) hle hdepth).trans hcycle⟩

end Rulebook.Compiler
