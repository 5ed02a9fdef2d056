import Vivarium.World.Turn

/-!
# Ticks

In a tick a blob of food may fall, every animal that was there at its start takes its turn and loses
some energy, the dead are removed, and new lineages fill the population up.
-/

namespace Vivarium.World

variable {G : Type} [Source G]

/-- The turns of animals one after the other. An animal that does not live when its turn comes does
nothing, but loses energy like the others. -/
def turns : List Nat → Sim G Unit
  | [] => return ()
  | id :: ids => do
    if (← animal id).isAlive then turn id
    changeAnimal id fun animal => { animal with energy := animal.energy - Animal.energyDecay }
    turns ids

/-- Whether an animal goes: it is out of energy, or chance has it. -/
def isDoomed (id : Nat) : Sim G Bool := do
  let animal ← animal id
  if animal.energy < 1 then return true
  else
    let world : World G ← get
    draw (Draw.chance world.settings.cullChance : Draw G Bool)

/-- Take the doomed among some animals off the ground, where their energy is left as food. Return
the others, in their order, and the number of the doomed. -/
def sortOut : List Nat → Sim G (List Nat × Nat)
  | [] => return ([], 0)
  | id :: ids => do
    if ← isDoomed id then
      let animal ← animal id
      let _ ← addFood animal.cell animal.energy
      vacate animal.cell
      let (survivors, removed) ← sortOut ids
      return (survivors, removed + 1)
    else
      let (survivors, removed) ← sortOut ids
      return (id :: survivors, removed)

/-- Remove the doomed from the world and return their number. -/
def removeDead : Sim G Nat := do
  let world : World G ← get
  let (survivors, removed) ← sortOut world.animals
  modify fun world => { world with animals := survivors }
  return removed

/-- Spawn new lineages, at most `count`, until no cell is free. Return how many there are. -/
def spawnUpTo : (count : Nat) → Sim G Nat
  | 0 => return 0
  | count + 1 => do
    match ← spawn with
    | none => return 0
    | some _ => return (← spawnUpTo count) + 1

/-- Spawn new lineages as long as the population is below its minimum and a cell is free. Return how
many there are. -/
def fillPopulation : Sim G Nat := do
  let world : World G ← get
  spawnUpTo (world.settings.minPopulation - world.animals.length).toNat

/-- Let one tick pass. -/
def step : Sim G Unit := do
  modify fun world => { world with tick := world.tick + 1 }
  let world : World G ← get
  if ← draw (Draw.chance world.settings.blobChance : Draw G Bool) then
    let _ ← addRandomBlob
  turns world.animals
  let removed ← removeDead
  modify fun world => { world with deaths := world.deaths + removed }
  let spawned ← fillPopulation
  if 0 < removed ∨ 0 < spawned then
    let world : World G ← get
    report .debug ("[World] tick=" ++ toString world.tick ++ " removed=" ++ toString removed ++
      " spawned=" ++ toString spawned ++ " population=" ++ toString world.animals.length)

/-- Let `count` ticks pass. -/
def steps : Nat → Sim G Unit
  | 0 => return ()
  | count + 1 => do
    step
    steps count

end Vivarium.World
