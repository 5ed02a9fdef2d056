import Vivarium.Proofs.World.Lineage

/-!
# Bodies of lineages

The bodies that lineages start with are valid and have both head cells on, and so have those that
come of mutations. So have, therefore, the bodies of all animals that ever were in a reachable world,
through forks and spawns of any number.
-/

namespace Vivarium.World

open Sprite

variable {G : Type} [Source G]

/-- Valid bodies with both head cells on run in lineages. -/
theorem hereditary_valid : Hereditary G fun body _ => body.Valid ∧ body.Headed where
  founder {before _ _} hb := by
    obtain ⟨founder, _, outcome, -, valid, headed⟩ :=
      exists_generateBody generationAttempts before
    rw [hb, Prod.mk.injEq, Except.ok.injEq] at outcome
    exact outcome.1 ▸ ⟨valid, headed⟩
  child h hi := by
    obtain ⟨same | ⟨before, _, mutated⟩, -⟩ := inherit_cases hi
    · exact same ▸ h
    · obtain ⟨child, _, outcome, valid, heads, -⟩ :=
        exists_valid_mutateBody h.1 mutationAttempts before
      rw [mutated, Prod.mk.injEq, Except.ok.injEq] at outcome
      refine outcome.1 ▸ ⟨valid, fun head hh => ?_⟩
      rw [heads head hh, h.2 head hh]

/-- Bodies stay valid: the test of shapes is passed just by the symmetric and connected ones with four
to thirteen cells and no corner on. Generating a body always comes to such a one, with both head cells
on. Mutating a valid body always comes to a valid one with the same head cells, which is the body
itself or differs from it just in one cell, neither a corner nor a head cell, and in its mirror image.
So the bodies of all animals that ever were in a reachable world are valid and have both head cells
on. -/
theorem bodies_stay_valid (g : G) {world : World G} (hr : Reachable Anywhere world) :
    (∀ sprite : Sprite, sprite.isValid = .ok true ↔ sprite.Valid) ∧
      (∀ attempts : Nat, ∃ body after, (generateBody attempts).outcome g = (.ok body, after) ∧
        body.Valid ∧ body.Headed) ∧
      (∀ body : Sprite, body.Valid → ∀ attempts : Nat, ∃ mutated after,
        (mutateBody body attempts).outcome g = (.ok mutated, after) ∧ mutated.Valid ∧
          (∀ head ∈ headCells, mutated.covers head = body.covers head) ∧
          (mutated = body ∨ ∃ cell, Changeable cell ∧ DiffersAt cell body mutated)) ∧
      ∀ animal ∈ world.roster, animal.body.Valid ∧ animal.body.Headed := by
  refine ⟨fun sprite => isValid_iff, fun attempts => ?_, fun body h attempts =>
    exists_valid_mutateBody h attempts g, heritage_of_reachable hereditary_valid hr⟩
  obtain ⟨body, after, outcome, -, known⟩ := exists_generateBody attempts g
  exact ⟨body, after, outcome, known⟩

/-- The standard body can be mutated, and the bodies of a small world are valid. -/
theorem bodies_stay_valid_glade :
    ∃ world, Glade world ∧
      (∃ mutated after, (mutateBody standard mutationAttempts).outcome world.rng =
        (.ok mutated, after) ∧ mutated.Valid ∧ mutated.Headed) ∧
      ∀ animal ∈ world.roster, animal.body.Valid ∧ animal.body.Headed := by
  have anywhere : Anywhere 3 2 {} := trivial
  obtain ⟨world, glade, reachable⟩ := exists_glade anywhere
  obtain ⟨test, -, mutations, bodies⟩ := bodies_stay_valid world.rng reachable
  obtain ⟨mutated, after, outcome, valid, heads, -⟩ :=
    mutations standard ((test standard).mp isValid_standard) mutationAttempts
  refine ⟨world, glade, ⟨mutated, after, outcome, valid, fun head hh => ?_⟩, bodies⟩
  rw [heads head hh, headed_standard head hh]

end Vivarium.World
