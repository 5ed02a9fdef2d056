import Vivarium.Random.Source
import Vivarium.Terrain.Grid

/-!
# Landscapes and their obstacles

A landscape is a grid with a source of random numbers. Obstacles are scattered over it one by one and
then grown: twice as many are put next to obstacles placed before, around the edges of the torus.
-/

namespace Vivarium

/-- A grid with a source of random numbers. -/
structure Landscape (G : Type) where
  /-- The ground. -/
  grid : Grid
  /-- The source of random numbers. -/
  rng : G

namespace Landscape

variable {G : Type} {α : Type}

/-- Run an attempt on the grid of a landscape. -/
def onGrid (attempt : Attempt Grid α) : Attempt (Landscape G) α :=
  attempt.onPart fun ⟨grid, rng⟩ => (grid, fun grid => ⟨grid, rng⟩)

/-- Draw from the source of a landscape. -/
def draw (attempt : Attempt G α) : Attempt (Landscape G) α :=
  attempt.onPart fun ⟨grid, rng⟩ => (rng, fun rng => ⟨grid, rng⟩)

variable [Source G]

/-- A random cell. -/
def randomCell : Attempt (Landscape G) Cell := do
  let land : Landscape G ← get
  let x ← draw (Draw.index land.grid.width)
  let y ← draw (Draw.index land.grid.height)
  return ⟨x, y⟩

/-- Place `count` obstacles on random cells and return these, in order, behind those placed
before. -/
def scatter : (count : Nat) → Array Cell → Attempt (Landscape G) (Array Cell)
  | 0, placed => return placed
  | count + 1, placed => do
    let cell ← randomCell
    onGrid (Grid.store cell obstacle)
    scatter count (placed.push cell)

/-- A random cell next to one: to the left or right, or else above or below. -/
def neighbour (cell : Cell) : Attempt (Landscape G) Cell := do
  let land : Landscape G ← get
  let sideways ← draw (Draw.coin : Draw G Bool)
  let step ← draw (Draw.choose [-1, 1] (by decide) : Draw G Int)
  if sideways then return { cell with x := ← wrapAround land.grid.width (cell.x + step) }
  else return { cell with y := ← wrapAround land.grid.height (cell.y + step) }

/-- Place `count` obstacles, each next to a random one of those placed before. -/
def grow : (count : Nat) → Array Cell → Attempt (Landscape G) Unit
  | 0, _ => return ()
  | count + 1, placed => do
    let i ← draw (Draw.index placed.size)
    let cell ← neighbour (placed.getD i default)
    onGrid (Grid.store cell obstacle)
    grow count (placed.push cell)

/-- Scatter an obstacle for every `density` cells and grow twice as many next to them. Return the
number of obstacles on the grid, or zero if none was scattered. -/
def placeObstacles (density : Int) : Attempt (Landscape G) Nat := do
  let land : Landscape G ← get
  if density = 0 then throw .floorDivisionByZero
  let seeds := (((land.grid.width * land.grid.height : Nat) : Int).fdiv density).toNat
  let placed ← scatter seeds #[]
  if placed.isEmpty then return 0
  grow (seeds * 2) placed
  let land : Landscape G ← get
  return land.grid.obstacleCount

end Landscape

end Vivarium
