import Vivarium.Proofs.Evolution.Language
import Vivarium.Proofs.World.Alteration

/-!
# Lineages

A trait of bodies and programs that founders have and that children take over from their parents is
one of every animal that ever was in a reachable world. This holds with all extents and settings,
also where computations stop with faults.
-/

namespace Vivarium.World

variable {G : Type} [Source G]

/-- Whether a trait of bodies and programs runs in lineages. -/
structure Hereditary (G : Type) [Source G] (trait : Sprite → Tree → Prop) : Prop where
  /-- The first animal of a lineage has it. -/
  founder {before after : G} {body : Sprite}
    (hb : (generateBody generationAttempts).outcome before = (.ok body, after)) :
    trait body .herbivore
  /-- The child of a parent that has it has it. -/
  child {before after : G} {body : Sprite} {program : Tree} {color : Int}
    {chances : MutationChances} {inherited : Inheritance} (h : trait body program)
    (hi : (inherit body program color chances).outcome before = (.ok inherited, after)) :
    trait inherited.body inherited.program

/-- Whether all animals that ever were have a trait. -/
def Heritage (trait : Sprite → Tree → Prop) (world : World G) : Prop :=
  ∀ animal ∈ world.roster, trait animal.body animal.program

variable {trait : Sprite → Tree → Prop}

omit [Source G] in
/-- A change of an animal that leaves its body and its program keeps a heritage. -/
theorem Heritage.changed {world : World G} (h : Heritage trait world) (id : Nat)
    {change : Animal → Animal} (body : ∀ animal, (change animal).body = animal.body)
    (program : ∀ animal, (change animal).program = animal.program) :
    Heritage trait (world.changed id change) := by
  intro animal ha
  obtain ⟨i, hi⟩ := Array.mem_iff_getElem?.mp ha
  rw [roster_changed] at hi
  split at hi
  · obtain ⟨before, hb, rfl⟩ := Option.map_eq_some_iff.mp hi
    rw [body, program]
    exact h before (Array.mem_of_getElem? hb)
  · exact h animal (Array.mem_of_getElem? hi)

omit [Source G] in
/-- An animal with a trait is put into a world with the heritage. -/
theorem Heritage.settled {world : World G} (h : Heritage trait world) {newcomer : Animal}
    (has : trait newcomer.body newcomer.program) : Heritage trait (world.settled newcomer) := by
  intro animal ha
  rcases Array.mem_push.mp ha with old | rfl
  · exact h animal old
  · exact has

/-- An alteration keeps a heritage. -/
theorem Alters.heritage (h : Hereditary G trait) {alteration : Alteration} {before after : World G}
    (ha : Alters alteration before after) (hw : Heritage trait before) : Heritage trait after := by
  cases ha with
  | ground clears =>
    obtain ⟨_, _, rfl⟩ := clears
    exact hw
  | own id change body program => exact hw.changed id body program
  | strike victim => exact hw.changed victim (fun _ => rfl) fun _ => rfl
  | birth known hi body program =>
    refine hw.settled ?_
    rw [body, program]
    exact h.child (hw _ known) hi
  | founding hb program =>
    refine hw.settled ?_
    rw [program]
    exact h.founder hb
  | thinning | count | report => exact hw

/-- In a reachable world, all animals that ever were have a trait that runs in lineages. -/
theorem heritage_of_reachable (h : Hereditary G trait) {admits : Int → Int → Settings → Prop}
    {world : World G} (hr : Reachable admits world) : Heritage trait world := by
  obtain ⟨_, _, _, _, start, he, altered⟩ := exists_altered_of_reachable hr
  obtain ⟨-, -, rfl⟩ := empty_eq_ok_iff.mp he
  refine altered.keeps (fun _ ha => ha.heritage h) fun animal ha => ?_
  simp at ha

/-- Programs that are evolved run in lineages. -/
theorem hereditary_evolved : Hereditary G fun _ program => Evolved program where
  founder _ := evolved_herbivore
  child h hi := by
    obtain ⟨-, same | ⟨_, _, mutated⟩, -⟩ := inherit_cases hi
    · exact same ▸ h
    · exact h.mutateProgram mutated

/-- Evolution stays within the language: a mutation of a well-formed program never fails and gives a
well-formed program with the same operator at its root. The result takes the arguments that its
operators take and counts without negative numbers if the original did, and calculates only if the
original did. So the programs of all animals that ever were in a reachable world are evolved. -/
theorem evolution_within_language {program : Tree} (hp : program.wellFormed = .ok true) (g : G)
    {world : World G} (hr : Reachable Anywhere world) :
    (∃ result after, (mutateProgram program).outcome g = (.ok result, after) ∧
        result.wellFormed = .ok true ∧ Tree.SameRoot program result ∧
        (Tree.Conforms regular program → Tree.Conforms regular result) ∧
        (Tree.Conforms arithmeticFree program → Tree.Conforms arithmeticFree result)) ∧
      ∀ animal ∈ world.roster, Evolved animal.program := by
  refine ⟨?_, heritage_of_reachable hereditary_evolved hr⟩
  obtain ⟨result, after, mutated, conforms, root⟩ :=
    exists_mutateProgram closed_anyForm ((Tree.wellFormed_iff program).mp hp) g
  have stays {grammar : Tree.Grammar} (closed : grammar.Closed)
      (h : Tree.Conforms grammar program) : Tree.Conforms grammar result := by
    obtain ⟨other, _, outcome, kept, -⟩ := exists_mutateProgram closed h g
    rw [mutated, Prod.mk.injEq, Except.ok.injEq] at outcome
    exact outcome.1 ▸ kept
  exact ⟨result, after, mutated, (Tree.wellFormed_iff result).mpr conforms, root,
    stays closed_regular, stays closed_arithmeticFree⟩

/-- Mutations of the program that lineages start with, and the programs of a small world, stay
within the language. -/
theorem evolution_within_language_glade :
    ∃ world, Glade world ∧
      (∃ result after, (mutateProgram .herbivore).outcome world.rng = (.ok result, after) ∧
        result.wellFormed = .ok true ∧ Evolved result) ∧
      ∀ animal ∈ world.roster, Evolved animal.program := by
  have anywhere : Anywhere 3 2 {} := trivial
  obtain ⟨world, glade, reachable⟩ := exists_glade anywhere
  have conforms : Tree.Conforms Tree.anyForm .herbivore :=
    evolved_herbivore.regular.mono (fun _ _ _ => trivial) fun _ _ => trivial
  obtain ⟨⟨result, after, mutated, formed, root, regular, free⟩, programs⟩ :=
    evolution_within_language ((Tree.wellFormed_iff .herbivore).mpr conforms) world.rng reachable
  obtain ⟨steps, begins⟩ := evolved_herbivore.root
  exact ⟨world, glade, ⟨result, after, mutated, formed, root _ steps begins,
    regular evolved_herbivore.regular, free evolved_herbivore.arithmeticFree⟩, programs⟩

end Vivarium.World
