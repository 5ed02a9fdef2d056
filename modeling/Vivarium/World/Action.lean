import Vivarium.World.Basic

/-!
# Sensing and acting

What an animal senses and does to its world. An action whose condition is not met does nothing, and
does not make the animal wait either. A fork makes the parent wait in any case.
-/

namespace Vivarium.World

variable {G : Type}

/-- The cell in front of an animal. -/
def ahead (id : Nat) : Sim G Cell := do
  wrap (← animal id).front

/-- The cell behind an animal. -/
def behind (id : Nat) : Sim G Cell := do
  wrap (← animal id).back

/-- The food on the cell of an animal. -/
def foodHere (id : Nat) : Sim G Int := do
  food (← animal id).cell

/-- The food on the cell in front of an animal. -/
def foodAhead (id : Nat) : Sim G Int := do
  food (← ahead id)

/-- What an animal senses in a world. -/
def senses (world : World G) (animal : Animal) : Senses where
  foodHere := world.grid.read animal.cell
  foodAhead := do world.grid.read (← world.grid.wrap animal.front)
  energy := animal.energy

/-- Move an animal to a cell if it is free. -/
def stepTo (id : Nat) (cell : Cell) : Sim G Unit := do
  if ← isFree cell then
    moveAnimal id cell
    changeAnimal id fun animal => { animal with wait := Animal.waitMove }

/-- Move an animal one step forward. -/
def move (id : Nat) : Sim G Unit := do
  stepTo id (← ahead id)

/-- Move an animal one step backward. -/
def moveBack (id : Nat) : Sim G Unit := do
  stepTo id (← behind id)

/-- Let an animal eat from its cell: its energy grows first, then the food is taken away. -/
def eat (id : Nat) : Sim G Unit := do
  let cell := (← animal id).cell
  let present ← food cell
  let eaten := max 0 (min present Animal.bite)
  changeAnimal id fun animal => { animal with energy := animal.energy + eaten }
  setFood cell (present - eaten)
  changeAnimal id fun animal => { animal with wait := Animal.waitEat }

/-- Let an animal hit the one in front of it: the energy of the victim falls to the ground as food,
and the victim will not live on. -/
def hit (id : Nat) : Sim G Unit := do
  let cell ← ahead id
  match ← animalAt cell with
  | none => return ()
  | some victim =>
    let energy := (← animal victim).energy
    if 0 < energy then
      let _ ← addFood cell energy
    changeAnimal victim fun animal => { animal with energy := Animal.hitEnergy }
    changeAnimal id fun animal => { animal with wait := Animal.waitHit }

variable [Source G]

/-- Turn an animal to a random side. -/
def turnRandom (id : Nat) : Sim G Unit := do
  if ← draw (Draw.coin : Draw G Bool) then changeAnimal id Animal.turnLeft
  else changeAnimal id Animal.turnRight

/-- Split a child off an animal, onto the cell in front if that is free, and return its number. -/
def fork (id : Nat) (asked : Option Number) : Sim G (Option Nat) := do
  let percentage ← clampPercentage asked
  changeAnimal id fun animal => { animal with wait := Animal.waitFork }
  let cell ← ahead id
  if ← isFree cell then
    let parent ← animal id
    let world : World G ← get
    let child ← draw (inherit parent.body parent.program parent.color world.settings.mutation)
    let (kept, given) ← splitEnergy (.int parent.energy) (.int percentage) forkYield
    changeAnimal id fun animal => { animal with energy := kept }
    return some (← addNewborn
      { cell
        body := child.body
        program := child.program
        dx := parent.dx
        dy := parent.dy
        energy := given
        wait := Animal.waitFork
        color := child.color })
  else return none

/-- Carry out what a program asks its animal to do. -/
def perform (id : Nat) : Request → Sim G Unit
  | .act .move => move id
  | .act .moveBack => moveBack id
  | .act .turnLeft => changeAnimal id Animal.turnLeft
  | .act .turnRight => changeAnimal id Animal.turnRight
  | .act .turnRandom => turnRandom id
  | .act .eat => eat id
  | .act .hit => hit id
  | .act .fork => do
    let _ ← fork id none
  | .fork percentage => do
    let _ ← fork id percentage

end Vivarium.World
