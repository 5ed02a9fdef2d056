import Vivarium.Journal
import Vivarium.Terrain.Blob
import Vivarium.Terrain.Obstacles
import Vivarium.World.Animal

/-!
# Worlds

A world is a landscape with the animals on it. Every animal that ever was has a number and stays in
the roster; those in the world are listed by number, in the order in which they take their turns. A
map tells which animal stands on a cell.
-/

namespace Vivarium

/-- What can be tuned about a world. -/
structure Settings where
  /-- The most food on a cell. -/
  maxFood : Int := 800
  /-- The number of animals below which new lineages are spawned. -/
  minPopulation : Int := 30
  /-- The chance of a food blob in a tick. -/
  blobChance : Number := .double (Double.ofRat (1 / 20))
  /-- The radius of food blobs. -/
  blobRadius : Int := 8
  /-- The chance of an animal to die in a tick without a cause. -/
  cullChance : Number := .double (Double.ofRat (5 / 10000))
  /-- The chances of mutations at a fork. -/
  mutation : MutationChances := {}

/-- A world. -/
structure World (G : Type) extends Landscape G where
  /-- What is tuned. -/
  settings : Settings
  /-- All animals that ever were, by number. -/
  roster : Array Animal := #[]
  /-- The numbers of the animals in the world, in the order of their turns. -/
  animals : List Nat := []
  /-- The number of the animal on a cell. -/
  occupied : CellMap Nat := ∅
  /-- The ticks that have begun. -/
  tick : Nat := 0
  /-- The animals born by forks. -/
  births : Nat := 0
  /-- The animals that died. -/
  deaths : Nat := 0
  /-- What was reported. -/
  journal : Array Entry := #[]

/-- A computation on a world that may stop with a fault. -/
abbrev Sim (G : Type) := Attempt (World G)

namespace World

variable {G : Type} {α : Type}

/-- An empty world of an extent that may turn out negative. -/
def empty (width height : Int) (rng : G) (settings : Settings) : Except Fault (World G) := do
  let grid ← Grid.create width height
  return { grid, rng, settings }

/-- An empty world of an extent that anyone may ask for. -/
def request (width height : Int) (rng : G) (settings : Settings) : Except Fault (World G) := do
  Grid.checkExtent width height
  empty width height rng settings

/-- Run an attempt on the landscape of a world. -/
def onLandscape (attempt : Attempt (Landscape G) α) : Sim G α :=
  attempt.onPart fun ⟨land, settings, roster, animals, occupied, tick, births, deaths, journal⟩ =>
    (land, fun land => ⟨land, settings, roster, animals, occupied, tick, births, deaths, journal⟩)

/-- Run an attempt on the grid of a world. -/
def onGrid (attempt : Attempt Grid α) : Sim G α :=
  onLandscape (Landscape.onGrid attempt)

/-- Draw from the source of a world. -/
def draw (attempt : Attempt G α) : Sim G α :=
  onLandscape (Landscape.draw attempt)

/-- Add an entry to the journal. -/
def report (level : Level) (text : String) : Sim G Unit :=
  modify fun world => { world with journal := world.journal.push ⟨level, text⟩ }

/-! ## The ground -/

/-- The cell of the world that a cell of the plane falls on. -/
def wrap (cell : Cell) : Sim G Cell := do
  let world : World G ← get
  world.grid.wrap cell

/-- The food on a cell. -/
def food (cell : Cell) : Sim G Int := do
  let world : World G ← get
  world.grid.read cell

/-- Put an amount of food on a cell, within the bounds for food. -/
def setFood (cell : Cell) (amount : Int) : Sim G Unit := do
  let world : World G ← get
  let amount := max obstacle (min world.settings.maxFood amount)
  onGrid (Grid.store cell amount)

/-- Add food to a cell without an obstacle, up to the greatest amount, and return the change. -/
def addFood (cell : Cell) (amount : Int) : Sim G Int := do
  let present ← food cell
  if present < 0 ∨ amount ≤ 0 then return 0
  else
    let world : World G ← get
    let filled := min world.settings.maxFood (present + amount)
    onGrid (Grid.store cell filled)
    return filled - present

/-- Put a blob of food around a random cell and return how much food was added. -/
def addRandomBlob [Source G] : Sim G Int := do
  let world : World G ← get
  let centre ← onLandscape Landscape.randomCell
  onGrid (addBlob centre world.settings.blobRadius world.settings.maxFood)

/-! ## The animals -/

/-- The animal of a number. -/
def animal (id : Nat) : Sim G Animal := do
  let world : World G ← get
  match world.roster[id]? with
  | some animal => return animal
  | none => throw Fault.listIndex

/-- Change the animal of a number. -/
def changeAnimal (id : Nat) (change : Animal → Animal) : Sim G Unit :=
  modify fun world => { world with roster := world.roster.modify id change }

/-- The animal on a cell. -/
def animalAt (cell : Cell) : Sim G (Option Nat) := do
  let world : World G ← get
  return world.occupied[cell]?

/-- Whether a cell has neither an obstacle nor an animal. -/
def isFree (cell : Cell) : Sim G Bool := do
  let present ← food cell
  let world : World G ← get
  return 0 ≤ present && !world.occupied.contains cell

/-- All free cells, row by row. -/
def freeCells (world : World G) : List Cell :=
  world.grid.contents.filterMap fun (cell, value) =>
    if 0 ≤ value && !world.occupied.contains cell then some cell else none

/-- Put an animal into the world, as the last to take its turn, and return its number. -/
def place (animal : Animal) : Sim G Nat := do
  let world : World G ← get
  let id := world.roster.size
  modify fun world =>
    { world with
      roster := world.roster.push animal
      animals := world.animals ++ [id]
      occupied := world.occupied.insert animal.cell id }
  return id

/-- Put a newborn into the world and return its number. -/
def addNewborn (animal : Animal) : Sim G Nat := do
  let id ← place animal
  modify fun world => { world with births := world.births + 1 }
  return id

/-- Take a cell out of the map of animals, on which there must be one. -/
def vacate (cell : Cell) : Sim G Unit := do
  let world : World G ← get
  if world.occupied.contains cell then
    modify fun world => { world with occupied := world.occupied.erase cell }
  else throw (.vacantCell cell.x cell.y)

/-- Move an animal to a cell. -/
def moveAnimal (id : Nat) (cell : Cell) : Sim G Unit := do
  vacate (← animal id).cell
  changeAnimal id fun animal => { animal with cell }
  modify fun world => { world with occupied := world.occupied.insert cell id }

/-- Put the first animal of a new lineage on a random free cell: a generated body, the standard
program and a random colour. Return its number, or nothing if no cell is free. -/
def spawn [Source G] : Sim G (Option Nat) := do
  let world : World G ← get
  let free := world.freeCells
  if h : free ≠ [] then
    let cell ← draw (Draw.choose free h : Draw G Cell)
    let body ← draw (generateBody generationAttempts)
    let color ← draw (Draw.below 256 (by decide) : Draw G (Fin 256))
    return some (← place { cell, body, color := color.val })
  else return none

/-! ## What the operations come to -/

/-- Reading a cell leaves the world alone. -/
theorem outcome_food (cell : Cell) (world : World G) :
    (food cell).outcome world = (world.grid.read cell, world) := by
  rw [food, Attempt.outcome_bind_of_ok (Attempt.outcome_get world), Attempt.outcome_ofExcept]

/-- Bringing a cell onto the torus leaves the world alone. -/
theorem outcome_wrap (cell : Cell) (world : World G) :
    (wrap cell).outcome world = (world.grid.wrap cell, world) := by
  rw [wrap, Attempt.outcome_bind_of_ok (Attempt.outcome_get world), Attempt.outcome_ofExcept]

/-- Looking up a cell leaves the world alone. -/
@[simp] theorem outcome_animalAt (cell : Cell) (world : World G) :
    (animalAt cell).outcome world = (.ok world.occupied[cell]?, world) := rfl

/-- A cell is free if it has neither an obstacle nor an animal. -/
theorem outcome_isFree {cell : Cell} {world : World G} {value : Int}
    (h : world.grid.read cell = .ok value) :
    (isFree cell).outcome world =
      (.ok (0 ≤ value && !world.occupied.contains cell), world) := by
  rw [isFree, Attempt.outcome_bind_of_ok (by rw [outcome_food, h])]
  rfl

/-- An animal placed has the next number and comes last. -/
@[simp] theorem outcome_place (animal : Animal) (world : World G) :
    (place animal).outcome world =
      (.ok world.roster.size,
        { world with
          roster := world.roster.push animal
          animals := world.animals ++ [world.roster.size]
          occupied := world.occupied.insert animal.cell world.roster.size }) := rfl

/-- Looking up an animal leaves the world alone. -/
theorem outcome_animal {id : Nat} {world : World G} {found : Animal}
    (h : world.roster[id]? = some found) :
    (animal id).outcome world = (.ok found, world) := by
  rw [animal, Attempt.outcome_bind_of_ok (Attempt.outcome_get world), h]
  rfl

/-- A cell with an animal can be vacated. -/
theorem outcome_vacate {cell : Cell} {world : World G} (h : world.occupied.contains cell) :
    (vacate cell).outcome world =
      (.ok (), { world with occupied := world.occupied.erase cell }) := by
  rw [vacate, Attempt.outcome_bind_of_ok (Attempt.outcome_get world), if_pos h]
  rfl

end World

end Vivarium
