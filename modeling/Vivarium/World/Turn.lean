import Vivarium.World.Action

/-!
# Turns

On its turn an animal waits, or goes on with its program up to the next action. One turn carries out
at most one action; the turn that finds the program at its end does nothing else.
-/

namespace Vivarium

/-- What a turn came to. -/
structure Resumption where
  /-- The value of the program, if it came to its end. -/
  value : Option Atom
  /-- The action that was carried out, if it did not. -/
  action : Option Action
  /-- The evaluation to go on with next time. -/
  held : Option Execution

namespace World

variable {G : Type} [Source G]

/-- Go on with an evaluation for an animal, or start the program if none is held, and carry out the
action that it asks for. -/
def resume (id : Nat) (program : Tree) (held : Option Execution) : Sim G Resumption := do
  let animal ← animal id
  let world : World G ← get
  match ← advance (world.senses animal) program held with
  | .value v => return ⟨some v, none, none⟩
  | .request request waiting =>
    perform id request
    return ⟨none, some request.action, some (.suspended waiting)⟩

/-- The turn of an animal. A fault in its program spoils the evaluation that was held. -/
def turn (id : Nat) : Sim G Unit := do
  let animal ← animal id
  if 0 < animal.wait then
    changeAnimal id fun animal => { animal with wait := animal.wait - 1 }
  else
    try
      let resumption ← resume id animal.program animal.execution
      changeAnimal id fun animal => { animal with execution := resumption.held }
    catch fault =>
      changeAnimal id fun animal => { animal with execution := Execution.spoil animal.execution }
      throw fault

end World

end Vivarium
