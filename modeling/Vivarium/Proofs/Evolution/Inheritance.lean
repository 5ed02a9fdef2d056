import Vivarium.Evolution.Inheritance
import Vivarium.Proofs.Evolution.Body
import Vivarium.Proofs.Evolution.Language

/-!
# What children inherit

A child has the body and the program of its parent or a mutation of each, and a colour on the circle
of 256. Inheriting from a parent with a square body and an evolved program never fails.
-/

namespace Vivarium

variable {G : Type} [Source G]

/-- A colour that has drifted is on the circle of 256. -/
theorem color_of_driftColor {color drift drifted : Int} {g g' : G}
    (h : (driftColor color drift).outcome g = (.ok drifted, g')) : 0 ≤ drifted ∧ drifted ≤ 255 := by
  obtain ⟨step, middle, -, h⟩ := Attempt.outcome_bind_eq_ok_iff.mp h
  have value : (color + step) % 256 = drifted := by
    simpa using congrArg Prod.fst h
  omega

/-- What a child takes is drawn in three parts. -/
theorem inherit_eq (body : Sprite) (program : Tree) (color : Int) (chances : MutationChances) :
    (inherit body program color chances : Attempt G Inheritance) =
      (do
        let mutated ← (Draw.chance chances.body : Draw G _)
        let childBody ← (if mutated then mutateBody body mutationAttempts else pure body)
        let varied ← (Draw.chance chances.program : Draw G _)
        let childProgram ← (if varied then mutateProgram program else pure program)
        let childColor ← driftColor color colorDrift
        return ⟨childBody, childProgram, childColor⟩) := by
  apply bind_congr
  intro mutated
  cases mutated <;> refine bind_congr fun childBody => bind_congr fun varied => ?_ <;>
    cases varied <;> rfl

/-- What a child takes from its parent is the parent's own or a mutation of it. -/
theorem inherit_cases {body : Sprite} {program : Tree} {color : Int} {chances : MutationChances}
    {g g' : G} {child : Inheritance}
    (h : (inherit body program color chances).outcome g = (.ok child, g')) :
    (child.body = body ∨ ∃ before after : G,
        (mutateBody body mutationAttempts).outcome before = (.ok child.body, after)) ∧
      (child.program = program ∨ ∃ before after : G,
        (mutateProgram program).outcome before = (.ok child.program, after)) ∧
      0 ≤ child.color ∧ child.color ≤ 255 := by
  rw [inherit_eq] at h
  obtain ⟨mutated, first, -, h⟩ := Attempt.outcome_bind_eq_ok_iff.mp h
  obtain ⟨childBody, second, hb, h⟩ := Attempt.outcome_bind_eq_ok_iff.mp h
  obtain ⟨varied, third, -, h⟩ := Attempt.outcome_bind_eq_ok_iff.mp h
  obtain ⟨childProgram, fourth, hp, h⟩ := Attempt.outcome_bind_eq_ok_iff.mp h
  obtain ⟨childColor, fifth, hc, h⟩ := Attempt.outcome_bind_eq_ok_iff.mp h
  have value : ⟨childBody, childProgram, childColor⟩ = child := by
    simpa using congrArg Prod.fst h
  subst value
  refine ⟨?_, ?_, color_of_driftColor hc⟩
  · cases mutated with
    | false =>
      have same : body = childBody := by simpa using congrArg Prod.fst hb
      exact .inl same.symm
    | true => exact .inr ⟨first, second, hb⟩
  · cases varied with
    | false =>
      have same : program = childProgram := by simpa using congrArg Prod.fst hp
      exact .inl same.symm
    | true => exact .inr ⟨third, fourth, hp⟩

/-- A colour drifts without a fault. -/
theorem exists_driftColor {drift : Int} (h : 0 ≤ drift) (color : Int) (g : G) :
    ∃ drifted after, (driftColor color drift).outcome g = (.ok drifted, after) := by
  have order : -drift ≤ drift := by omega
  exact ⟨_, _, by
    rw [driftColor, Draw.within, dif_pos order,
      Attempt.outcome_bind_of_ok (Attempt.outcome_draw _ g)]
    rfl⟩

/-- Inheriting never fails where the mutations of the body and of the program never do. What body,
program and their mutations have in common, the child's body and program have. -/
theorem exists_inherit_of {body : Sprite} {program : Tree} {traitOfBody : Sprite → Prop}
    {traitOfProgram : Tree → Prop} (hb : traitOfBody body) (hp : traitOfProgram program)
    (bodies : ∀ g : G, ∃ mutated after,
      (mutateBody body mutationAttempts).outcome g = (.ok mutated, after) ∧ traitOfBody mutated)
    (programs : ∀ g : G, ∃ mutated after,
      (mutateProgram program).outcome g = (.ok mutated, after) ∧ traitOfProgram mutated)
    (color : Int) (chances : MutationChances) (g : G) :
    ∃ child after, (inherit body program color chances).outcome g = (.ok child, after) ∧
      traitOfBody child.body ∧ traitOfProgram child.program := by
  have bodies (mutated : Bool) (g : G) : ∃ childBody after,
      (if mutated then mutateBody body mutationAttempts else pure body).outcome g =
        (.ok childBody, after) ∧ traitOfBody childBody := by
    cases mutated with
    | true => exact bodies g
    | false => exact ⟨body, g, rfl, hb⟩
  have programs (varied : Bool) (g : G) : ∃ childProgram after,
      (if varied then mutateProgram program else pure program).outcome g =
        (.ok childProgram, after) ∧ traitOfProgram childProgram := by
    cases varied with
    | true => exact programs g
    | false => exact ⟨program, g, rfl, hp⟩
  rw [inherit_eq, Attempt.outcome_bind_of_ok (Attempt.outcome_draw _ g)]
  obtain ⟨childBody, second, hb, likeBody⟩ :=
    bodies (Draw.chance chances.body g).1 (Draw.chance chances.body g).2
  rw [Attempt.outcome_bind_of_ok hb, Attempt.outcome_bind_of_ok (Attempt.outcome_draw _ second)]
  obtain ⟨childProgram, fourth, hp, likeProgram⟩ :=
    programs (Draw.chance chances.program second).1 (Draw.chance chances.program second).2
  obtain ⟨childColor, last, hc⟩ := exists_driftColor (by decide : 0 ≤ colorDrift) color fourth
  rw [Attempt.outcome_bind_of_ok hp, Attempt.outcome_bind_of_ok hc]
  exact ⟨_, _, rfl, likeBody, likeProgram⟩

/-- Inheriting from a square body and an evolved program never fails, and gives such again. -/
theorem exists_inherit {body : Sprite} {program : Tree} (hb : body.Square) (hp : Evolved program)
    (color : Int) (chances : MutationChances) (g : G) :
    ∃ child after, (inherit body program color chances).outcome g = (.ok child, after) ∧
      child.body.Square ∧ Evolved child.program := by
  refine exists_inherit_of hb hp (exists_square_mutateBody hb mutationAttempts) (fun g => ?_)
    color chances g
  obtain ⟨result, after, outcome, -⟩ := exists_mutateProgram closed_regular hp.regular g
  exact ⟨result, after, outcome, hp.mutateProgram outcome⟩

end Vivarium
