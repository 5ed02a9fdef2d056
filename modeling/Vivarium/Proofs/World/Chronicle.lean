import Vivarium.Proofs.World.Tick

/-!
# Chronicles

A tick with everything written down that happens to the animals: who was visited and what came of
it, who was removed and who was spawned. The operations that write this down do what those of the
tick do, and a step is a tick of which the chronicle is thrown away.
-/

namespace Vivarium

/-- What is handed on from an attempt or from the handler of its fault can be thrown away at either
place. -/
theorem Attempt.tryCatch_bind_unit {σ α : Type} (attempt : Attempt σ α)
    (handler : Fault → Attempt σ α) :
    (do let _ ← tryCatch attempt handler) =
      (tryCatch (do let _ ← attempt) fun fault => do let _ ← handler fault : Attempt σ Unit) := by
  refine ext_outcome fun state => ?_
  rw [outcome_bind, outcome_tryCatch, outcome_tryCatch, outcome_bind]
  rcases outcome attempt state with ⟨result, after⟩
  cases result with
  | ok a => rfl
  | error fault => exact (outcome_bind (handler fault) _ after).symm

namespace World

variable {G : Type} [Source G]

/-- What came of the visit that a tick pays to an animal. -/
inductive Visit where
  /-- The animal did not live and had no turn. -/
  | missed
  /-- The animal had its turn and waited. -/
  | waited
  /-- The animal had its turn, and its program went on from the evaluation held, or from its root.
  The child is the one that was born, if any. -/
  | resumed (program : Tree) (held : Option Execution) (resumption : Resumption)
    (child : Option Nat)

namespace Visit

/-- Whether the animal had a turn. -/
def isTurn : Visit → Bool
  | missed => false
  | _ => true

/-- The action that was carried out, if any. -/
def action : Visit → Option Action
  | resumed _ _ resumption _ => resumption.action
  | _ => none

/-- The child that was born, if any. -/
def child : Visit → Option Nat
  | resumed _ _ _ child => child
  | _ => none

end Visit

/-- What is written down about the animals in a tick. -/
structure Chronicle where
  /-- The animals that were visited, in their order, and what came of each visit. -/
  visits : List (Nat × Visit)
  /-- The animals that were removed, in the order of the list. -/
  removed : List Nat
  /-- The animals that were spawned, in their order. -/
  spawned : List Nat

/-- The children that were born, in the order of their births. -/
def Chronicle.born (chronicle : Chronicle) : List Nat :=
  chronicle.visits.filterMap (·.2.child)

/-! ## Operations that are written down -/

/-- Carry out what a program asks for. Return the child if one is born. -/
def enact (id : Nat) : Request → Sim G (Option Nat)
  | .act .fork => fork id none
  | .fork percentage => fork id percentage
  | request => do
    perform id request
    return none

/-- Go on with an evaluation for an animal. Return also the child if one is born. -/
def proceed (id : Nat) (program : Tree) (held : Option Execution) :
    Sim G (Resumption × Option Nat) := do
  let animal ← animal id
  let world : World G ← get
  match ← advance (world.senses animal) program held with
  | .value v => return (⟨some v, none, none⟩, none)
  | .request request waiting =>
    let child ← enact id request
    return (⟨none, some request.action, some (.suspended waiting)⟩, child)

/-- Let the program of an animal go on, and hold what is left of its evaluation. Return what came of
it. -/
def goOn (id : Nat) (program : Tree) (held : Option Execution) : Sim G Visit := do
  try
    let (resumption, child) ← proceed id program held
    changeAnimal id fun animal => { animal with execution := resumption.held }
    pure (.resumed program held resumption child)
  catch fault =>
    changeAnimal id fun animal => { animal with execution := Execution.spoil animal.execution }
    throw fault

/-- The turn of an animal. Return what came of it. -/
def takeTurn (id : Nat) : Sim G Visit := do
  let animal ← animal id
  if 0 < animal.wait then
    changeAnimal id fun animal => { animal with wait := animal.wait - 1 }
    return .waited
  else goOn id animal.program animal.execution

/-- The turn of an animal if it lives, and the decay of its energy in any case. Return what came of
the turn. -/
def visit (id : Nat) : Sim G Visit := do
  let animal ← animal id
  let seen ← (if animal.isAlive then takeTurn id else pure .missed)
  changeAnimal id fun animal => { animal with energy := animal.energy - Animal.energyDecay }
  return seen

/-- Visit animals one after the other. -/
def visitAll : List Nat → Sim G (List (Nat × Visit))
  | [] => return []
  | id :: ids => do
    let seen ← visit id
    let rest ← visitAll ids
    return (id, seen) :: rest

/-- Take the doomed among some animals off the ground. Return the others and the doomed. -/
def sift : List Nat → Sim G (List Nat × List Nat)
  | [] => return ([], [])
  | id :: ids => do
    if ← isDoomed id then
      let animal ← animal id
      let _ ← addFood animal.cell animal.energy
      vacate animal.cell
      let (survivors, removed) ← sift ids
      return (survivors, id :: removed)
    else
      let (survivors, removed) ← sift ids
      return (id :: survivors, removed)

/-- Remove the doomed from the world and return them. -/
def weedOut : Sim G (List Nat) := do
  let world : World G ← get
  let (survivors, removed) ← sift world.animals
  modify fun world => { world with animals := survivors }
  return removed

/-- Spawn new lineages, at most `count`, and return their first animals. -/
def settle : (count : Nat) → Sim G (List Nat)
  | 0 => return []
  | count + 1 => do
    match ← spawn with
    | none => return []
    | some id => return id :: (← settle count)

/-- One tick. Return its chronicle. -/
def chronicle : Sim G Chronicle := do
  let (ids, _) ← beginTick
  let visits ← visitAll ids
  let removed ← weedOut
  modify fun world => { world with deaths := world.deaths + removed.length }
  let world : World G ← get
  let spawned ← settle (world.settings.minPopulation - world.animals.length).toNat
  reportTick removed.length spawned.length
  return ⟨visits, removed, spawned⟩

/-- Ticks one after the other. Return their chronicles. -/
def chronicles : (count : Nat) → Sim G (List Chronicle)
  | 0 => return []
  | count + 1 => do
    let written ← chronicle
    let others ← chronicles count
    return written :: others

/-! ## They do what the tick does -/

/-- Carrying out and returning the child is carrying out. -/
theorem perform_eq (id : Nat) (request : Request) :
    (perform id request : Sim G Unit) = (do let _ ← enact id request) := by
  have plain {action : Sim G Unit} : action = (do
      let _ ← (do action; return none : Sim G (Option Nat))) := by
    simp only [bind_assoc, pure_bind, bind_pure_unit]
  match request with
  | .act .fork | .fork percentage => rfl
  | .act .move | .act .moveBack | .act .turnLeft | .act .turnRight | .act .turnRandom | .act .eat
  | .act .hit => exact plain

/-- Proceeding and not returning the child is resuming. -/
theorem resume_eq (id : Nat) (program : Tree) (held : Option Execution) :
    (resume id program held : Sim G Resumption) =
      (do
        let (resumption, _) ← proceed id program held
        return resumption) := by
  simp only [resume, proceed, bind_assoc]
  refine bind_congr fun animal => bind_congr fun world => bind_congr fun outcome => ?_
  cases outcome with
  | value v => rfl
  | request request waiting =>
    dsimp only
    rw [perform_eq]
    simp only [bind_assoc, pure_bind]

/-- A turn of which nothing is returned is a turn. -/
theorem turn_eq (id : Nat) : (turn id : Sim G Unit) = (do let _ ← takeTurn id) := by
  simp only [turn, takeTurn, bind_assoc]
  refine bind_congr fun animal => ?_
  by_cases waits : 0 < animal.wait
  · simp only [if_pos waits, bind_assoc, pure_bind, bind_pure_unit]
  · simp only [if_neg waits, goOn]
    rw [Attempt.tryCatch_bind_unit, resume_eq]
    simp only [bind_assoc, pure_bind, bind_pure_unit]
    rfl

/-- The turns of animals are visits of which nothing is returned. -/
theorem turns_eq (ids : List Nat) : (turns ids : Sim G Unit) = (do let _ ← visitAll ids) := by
  induction ids with
  | nil => rfl
  | cons id ids ih =>
    simp only [turns, visitAll, visit, bind_assoc, pure_bind, ih, turn_eq]
    refine bind_congr fun animal => ?_
    split <;> simp only [pure_bind]

/-- Sorting out is sifting and counting. -/
theorem sortOut_eq (ids : List Nat) :
    (sortOut ids : Sim G (List Nat × Nat)) =
      (do
        let (survivors, removed) ← sift ids
        return (survivors, removed.length)) := by
  induction ids with
  | nil => rfl
  | cons id ids ih =>
    simp only [sortOut, sift, bind_assoc, ih]
    refine bind_congr fun doomed => ?_
    split <;> simp only [bind_assoc, pure_bind, List.length_cons]

/-- Removing the dead is weeding out and counting. -/
theorem removeDead_eq : (removeDead : Sim G Nat) = (do return (← weedOut).length) := by
  simp only [removeDead, weedOut, sortOut_eq, bind_assoc, pure_bind]

/-- Spawning up to a number is settling and counting. -/
theorem spawnUpTo_eq (count : Nat) :
    (spawnUpTo count : Sim G Nat) = (do return (← settle count).length) := by
  induction count with
  | zero => rfl
  | succ count ih =>
    simp only [spawnUpTo, settle, bind_assoc]
    refine bind_congr fun spawned => ?_
    cases spawned with
    | none => rfl
    | some id => simp only [ih, bind_assoc, pure_bind, List.length_cons]

/-- A step is a tick of which the chronicle is thrown away. -/
theorem step_eq_chronicle : (step : Sim G Unit) = (do let _ ← chronicle) := by
  rw [step_eq]
  simp only [ledger, endTick, chronicle, fillPopulation, turns_eq, removeDead_eq, spawnUpTo_eq,
    bind_assoc, pure_bind]

/-- Steps are ticks of which the chronicles are thrown away. -/
theorem steps_eq_chronicles (count : Nat) :
    (steps count : Sim G Unit) = (do let _ ← chronicles count) := by
  induction count with
  | zero => rfl
  | succ count ih =>
    simp only [steps, chronicles, step_eq_chronicle, ih, bind_assoc, pure_bind]

end World

end Vivarium
