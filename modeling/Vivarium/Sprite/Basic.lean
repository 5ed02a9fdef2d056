import Vivarium.Attempt
import Vivarium.Position

/-!
# Sprites

A sprite is the body shape of an animal, rows of cells that are on or off. The shapes that come about
in a simulation are five by five, mirror symmetric and connected; the operations are defined for rows
of any length and fault where they reach for a cell that is not there.
-/

namespace Vivarium

/-- A body shape, row by row from the top, `true` for the cells that are on. -/
structure Sprite where
  /-- The rows of cells. -/
  cells : List (List Bool)
  deriving DecidableEq, Repr, Inhabited

namespace Sprite

/-- The width and height of a body. -/
def side : Nat := 5

/-- The width of the left half of a body, the middle column included. -/
def halfWidth : Nat := side / 2 + 1

/-- Read rows of text, in which `#` stands for a cell that is on. -/
def ofRows (rows : List String) : Sprite :=
  ⟨rows.map fun row => row.toList.map (· = '#')⟩

/-- The rows as text, `#` for on and `.` for off. -/
def rows (sprite : Sprite) : List String :=
  sprite.cells.map fun row => String.ofList (row.map fun on => if on then '#' else '.')

/-- The shape with no cell on. -/
def blank : Sprite :=
  ⟨List.replicate side (List.replicate side false)⟩

/-- The shape of animals that are given none. -/
def standard : Sprite :=
  ofRows ["..#..", ".###.", "..#..", ".###.", ".#.#."]

/-- The rows and columns of the corners of a body. -/
def corners : List (Nat × Nat) :=
  [(0, 0), (0, side - 1), (side - 1, 0), (side - 1, side - 1)]

/-- The rows and columns of the head cells, which every body keeps. -/
def headCells : List (Nat × Nat) :=
  [(0, 2), (2, 2)]

/-- The number of cells that are on. -/
def count (sprite : Sprite) : Nat :=
  sprite.cells.flatten.count true

/-- Whether the cell at a place of a row is on. -/
def rowIsOn (row : List Bool) (column : Nat) : Except Fault Bool :=
  match row[column]? with
  | some on => .ok on
  | none => .error .listIndex

/-- Whether the cell of a row and column is on. -/
def isOn (sprite : Sprite) (row column : Nat) : Except Fault Bool :=
  match sprite.cells[row]? with
  | some cells => rowIsOn cells column
  | none => .error .listIndex

/-- Switch the cell at a row and column on or off. Negative positions count from the end. -/
def switch (row column : Int) (on : Bool) : Attempt Sprite Unit := fun sprite =>
  match place? sprite.cells.length row with
  | none => .error (misplaced row .listIndex) sprite
  | some r =>
    let cells := sprite.cells[r]
    match place? cells.length column with
    | none => .error (misplaced column .listAssignment) sprite
    | some c => .ok () ⟨sprite.cells.set r (cells.set c on)⟩

/-- Switch a cell and then its mirror image. -/
def switchMirrored (row column : Int) (on : Bool) : Attempt Sprite Unit := do
  switch row column on
  switch row (side - 1 - column) on

/-- Switch all corners off. -/
def clearCorners : Attempt Sprite Unit :=
  corners.forM fun (row, column) => switch row column false

/-- The sprite after a change, unless the change is a fault. -/
def changed (sprite : Sprite) (change : Attempt Sprite Unit) : Except Fault Sprite :=
  let (result, sprite) := change.outcome sprite
  result.map fun _ => sprite

/-- The body turned clockwise by a quarter. -/
def quarterTurn (sprite : Sprite) : Except Fault Sprite := do
  let cells ← (List.range side).mapM fun row =>
    (List.range side).mapM fun column => sprite.isOn (side - 1 - column) row
  return ⟨cells⟩

/-- The body turned clockwise by a number of quarters. -/
def turned (sprite : Sprite) : (quarters : Nat) → Except Fault Sprite
  | 0 => .ok sprite
  | quarters + 1 => do (← sprite.quarterTurn).turned quarters

/-- The body turned clockwise by any number of quarters, negative ones counterclockwise. -/
def rotated (sprite : Sprite) (quarters : Int) : Except Fault Sprite :=
  sprite.turned (quarters % 4).toNat

/-- The number of quarters by which a body is turned for a heading. Bodies are stored facing up. -/
def quarterTurns (dx dy : Int) : Nat :=
  if dx = 1 then 1
  else if dy = 1 then 2
  else if dx = -1 then 3
  else 0

end Sprite

end Vivarium
