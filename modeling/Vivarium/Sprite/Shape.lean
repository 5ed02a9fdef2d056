import Vivarium.Sprite.Basic

/-!
# Valid shapes

A shape is valid when its corners are off, it has four to thirteen cells on, it is mirror symmetric,
and its cells hang together. The tests are made in this order, and each stops at its first failure.
-/

namespace Vivarium.Sprite

/-- The fewest cells of a valid body. -/
def fewestCells : Nat := 4

/-- The most cells of a valid body. -/
def mostCells : Nat := 13

/-- Whether every row reads the same in both directions over the width of a body. -/
def isSymmetric (sprite : Sprite) : Except Fault Bool :=
  sprite.cells.allM fun row => (List.range side).allM fun column => do
    return (← rowIsOn row column) = (← rowIsOn row (side - 1 - column))

/-- The rows and columns of a body, row by row. -/
def window : List (Nat × Nat) :=
  (List.range side).flatMap fun row => (List.range side).map fun column => (row, column)

/-- The first cell that is on, row by row. -/
def firstOn (sprite : Sprite) : List (Nat × Nat) → Except Fault (Option (Nat × Nat))
  | [] => .ok none
  | (row, column) :: rest => do
    if ← sprite.isOn row column then return some (row, column) else sprite.firstOn rest

/-- The cells of a body that touch a cell with an edge. -/
def neighbours : Nat × Nat → List (Nat × Nat)
  | (row, column) =>
    (if 0 < column then [(row, column - 1)] else []) ++
      (if column + 1 < side then [(row, column + 1)] else []) ++
      (if 0 < row then [(row - 1, column)] else []) ++
      (if row + 1 < side then [(row + 1, column)] else [])

/-- Add to the reached cells all cells that are on and joined to a pending one. At most `fuel`
pending cells are looked at. -/
def flood (sprite : Sprite) :
    (fuel : Nat) → (pending reached : List (Nat × Nat)) → Except Fault (List (Nat × Nat))
  | 0, _, reached => .ok reached
  | _, [], reached => .ok reached
  | fuel + 1, cell :: pending, reached => do
    if reached.contains cell then sprite.flood fuel pending reached
    else if ← sprite.isOn cell.1 cell.2 then
      sprite.flood fuel (neighbours cell ++ pending) (cell :: reached)
    else sprite.flood fuel pending reached

/-- The number of cells that a flood can look at: the first one, and four neighbours for each cell of
a body. -/
def floodBound : Nat := 1 + 4 * (side * side)

/-- Whether some cell is on and every cell that is on is joined to the first one. -/
def isConnected (sprite : Sprite) : Except Fault Bool := do
  match ← sprite.firstOn window with
  | none => return false
  | some first =>
    let reached ← sprite.flood floodBound [first] []
    return reached.length = sprite.count

/-- Whether a shape is valid. -/
def isValid (sprite : Sprite) : Except Fault Bool := do
  if ← corners.anyM fun (row, column) => sprite.isOn row column then return false
  else if sprite.count < fewestCells || mostCells < sprite.count then return false
  else if ← sprite.isSymmetric then sprite.isConnected
  else return false

/-- The shape of animals that are given none is valid. -/
theorem isValid_standard : standard.isValid = .ok true := by rfl

end Vivarium.Sprite
