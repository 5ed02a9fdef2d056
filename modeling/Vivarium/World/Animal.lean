import Vivarium.Evolution.Inheritance
import Vivarium.Program.Evaluation
import Vivarium.Terrain.Cell

/-!
# Animals

An animal has a place and a heading on the torus, a budget of energy, a body, and a program that
drives it. After most actions it waits for some ticks.
-/

namespace Vivarium

/-- The energy of animals that are given none. -/
def startEnergy : Int := 200

/-- An animal. -/
structure Animal where
  /-- Where it stands. -/
  cell : Cell
  /-- Its body. -/
  body : Sprite := .standard
  /-- Its program. -/
  program : Tree := .herbivore
  /-- The columns that one step forward takes it. -/
  dx : Int := 1
  /-- The rows that one step forward takes it. -/
  dy : Int := 0
  /-- Its energy. -/
  energy : Int := startEnergy
  /-- The ticks before its program goes on. -/
  wait : Int := 0
  /-- Its colour, between 0 and 255. -/
  color : Int := 0
  /-- The evaluation of its program that is held between two actions. -/
  execution : Option Execution := none

namespace Animal

/-- The wait after a step. -/
def waitMove : Int := 5

/-- The wait after a turn. -/
def waitTurn : Int := 3

/-- The wait after a meal. -/
def waitEat : Int := 5

/-- The wait after a hit. -/
def waitHit : Int := 3

/-- The wait of parent and child after a fork. -/
def waitFork : Int := 10

/-- The most food eaten at once. -/
def bite : Int := 100

/-- The energy of an animal that was hit. -/
def hitEnergy : Int := -1000

/-- The energy that every tick takes. -/
def energyDecay : Int := 1

/-- Whether an animal is alive. -/
def isAlive (animal : Animal) : Bool := 1 ≤ animal.energy

/-- The animal after a turn to the left. -/
def turnLeft (animal : Animal) : Animal :=
  { animal with dx := animal.dy, dy := -animal.dx, wait := waitTurn }

/-- The animal after a turn to the right. -/
def turnRight (animal : Animal) : Animal :=
  { animal with dx := -animal.dy, dy := animal.dx, wait := waitTurn }

/-- The cell of the plane in front of an animal. -/
def front (animal : Animal) : Cell :=
  ⟨animal.cell.x + animal.dx, animal.cell.y + animal.dy⟩

/-- The cell of the plane behind an animal. -/
def back (animal : Animal) : Cell :=
  ⟨animal.cell.x - animal.dx, animal.cell.y - animal.dy⟩

/-- The body turned to the heading. -/
def turnedBody (animal : Animal) : Except Fault Sprite :=
  animal.body.rotated (Sprite.quarterTurns animal.dx animal.dy)

end Animal

end Vivarium
