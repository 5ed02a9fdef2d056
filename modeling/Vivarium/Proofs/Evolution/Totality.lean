import Vivarium.Proofs.Evolution.Inheritance

/-!
# Mutations of any program

The edits of a mutation read and replace nodes at listed paths only, which are there in every tree.
So no tree makes a mutation fail, be it well formed or not, and a child can inherit from any animal
whose body has all its cells.
-/

namespace Vivarium

open Vivarium.Tree

/-- Doubling a node other than the root never fails. -/
theorem exists_duplicateAt_of_reaches {program node : Tree} {path : Path}
    (reaches : Reaches program path node) (below : path ≠ []) :
    ∃ result, duplicateAt program path node = .ok result := by
  obtain ⟨head, args, i, parent, -⟩ := reaches.exists_parent below
  rw [duplicateAt, parent.get_eq]
  change ∃ result, (if head.operator? = _ then _ else _) = _
  -- The copy goes into the parent if that is a sequence, and else into a new one for the node.
  split
  · exact exists_set_of_reaches parent _
  · exact exists_set_of_reaches reaches _

variable {G : Type} [Source G]

omit [Source G] in
/-- Putting what is drawn in the place of a node never fails. -/
theorem exists_outcome_set_of_reaches {program node : Tree} {path : Path}
    (reaches : Reaches program path node) (draw : Draw G Tree) (g : G) :
    ∃ result after, Attempt.outcome (do program.set path (← draw) : Attempt G Tree) g =
      (.ok result, after) := by
  obtain ⟨result, outcome⟩ := exists_set_of_reaches reaches (draw g).1
  refine ⟨result, (draw g).2, ?_⟩
  rw [Attempt.outcome_bind_of_ok (Attempt.outcome_draw draw g), outcome]
  rfl

/-- A mutation never fails, whatever the program is like. -/
theorem exists_outcome_mutateProgram (program : Tree) (g : G) :
    ∃ result after, (mutateProgram program).outcome g = (.ok result, after) := by
  have picks := yields_pickPath program g
  rw [mutateProgram, Attempt.outcome_bind_of_ok (Attempt.outcome_draw _ g)]
  generalize (pickPath program g : Option Path × G) = picked at *
  obtain ⟨found, g⟩ := picked
  cases found with
  | none => exact ⟨program, g, rfl⟩
  | some path =>
    obtain ⟨below, node, reaches⟩ := picks path rfl
    have read : Attempt.outcome (liftM (program.get path) : Attempt G Tree) g = (.ok node, g) := by
      rw [reaches.get_eq]
      rfl
    dsimp only
    rw [Attempt.outcome_bind_of_ok read, Attempt.outcome_bind_of_ok (Attempt.outcome_draw _ g)]
    generalize (Draw.unit g : Double × G) = roll
    cases Edit.ofRoll roll.1 with
    | wrap => exact exists_outcome_set_of_reaches reaches (wrap node) roll.2
    | change => exact exists_outcome_set_of_reaches reaches (changeWithinKind node) roll.2
    | collapse => exact exists_outcome_set_of_reaches reaches (collapse node) roll.2
    | duplicate =>
      obtain ⟨result, doubled⟩ := exists_duplicateAt_of_reaches reaches below
      refine ⟨result, roll.2, ?_⟩
      dsimp only
      rw [doubled]
      rfl

/-- Mutating a body with all its cells gives one with all its cells. -/
theorem exists_roomy_mutateBody {body : Sprite} (h : body.Roomy) (attempts : Nat) (g : G) :
    ∃ mutated after, (mutateBody body attempts).outcome g = (.ok mutated, after) ∧
      mutated.Roomy := by
  obtain ⟨mutated, after, outcome, rfl | ⟨cell, -, rfl, -⟩⟩ := exists_mutateBody h attempts g
  · exact ⟨_, after, outcome, h⟩
  · exact ⟨_, after, outcome, h.of_extent_eq (Sprite.extent_toggled body cell)⟩

/-- Inheriting from a body with all its cells never fails, whatever the program is like, and gives
such a body. -/
theorem exists_roomy_inherit {body : Sprite} (h : body.Roomy) (program : Tree) (color : Int)
    (chances : MutationChances) (g : G) :
    ∃ child after, (inherit body program color chances).outcome g = (.ok child, after) ∧
      child.body.Roomy := by
  have programs (g : G) : ∃ mutated after,
      (mutateProgram program).outcome g = (.ok mutated, after) ∧ True := by
    obtain ⟨mutated, after, outcome⟩ := exists_outcome_mutateProgram program g
    exact ⟨mutated, after, outcome, trivial⟩
  obtain ⟨child, after, outcome, roomy, -⟩ :=
    exists_inherit_of h trivial (exists_roomy_mutateBody h mutationAttempts) programs color chances g
  exact ⟨child, after, outcome, roomy⟩

end Vivarium
