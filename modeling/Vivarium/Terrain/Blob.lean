import Vivarium.Number.Basic
import Vivarium.Number.Root
import Vivarium.Terrain.Grid

/-!
# Food blobs

Food arrives in round blobs: richest in the middle and fading with the distance along columns and
rows. A blob wraps around the edges of the grid, also onto itself, and passes obstacles over.
-/

namespace Vivarium

/-- The integers between two ends, both included. -/
def interval (low high : Int) : List Int :=
  (List.range (high + 1 - low).toNat).map fun (i : Nat) => low + i

/-- A cell of a blob, relative to its centre. -/
structure Offset where
  /-- The columns from the centre. -/
  dx : Int
  /-- The rows from the centre. -/
  dy : Int
  /-- The distance from the centre along columns and rows. -/
  distance : Nat
  deriving DecidableEq, Repr

/-- How far a blob reaches up and down in the column at a distance from its centre. -/
def blobSpan (radius dx : Int) : Except Fault Int := do
  (← Double.ofInt (radius * radius - dx * dx)).sqrt.truncate

/-- The cells of one column of a blob. -/
def blobColumn (radius dx : Int) : Except Fault (List Offset) := do
  let span ← blobSpan radius dx
  return (interval (-span) span).map fun dy => ⟨dx, dy, dx.natAbs + dy.natAbs⟩

/-- The cells of a blob, column by column. -/
def blobCells (radius : Int) : Except Fault (List Offset) := do
  let columns ← (interval (-radius) radius).mapM (blobColumn radius)
  return columns.flatten

/-- The food that a blob puts at a distance from its centre: the part of the greatest amount that
the distance leaves of the radius, without its fraction, and at least one. -/
def blobAmount (distance radius maxFood : Int) : Except Fault Int := do
  let faded ← Double.ofQuotient distance radius
  let product ← (Number.int maxFood).mul (.double (.finite 1 - faded))
  return max 1 (← product.truncate)

/-- The food that a blob puts at each distance, which is worked out once for all its cells. No cell
of a blob is farther than twice its radius. -/
def blobAmounts (radius maxFood : Int) : Array (Except Fault Int) :=
  Array.ofFn fun distance : Fin (2 * radius.toNat + 1) => blobAmount distance.val radius maxFood

/-- A blob that is put on a grid. -/
structure Blob where
  /-- The cell in its middle. -/
  centre : Cell
  /-- How far it reaches along rows and columns. -/
  radius : Int
  /-- The most food on a cell. -/
  maxFood : Int
  /-- The food that it puts at each distance. -/
  amounts : Array (Except Fault Int) := blobAmounts radius maxFood

namespace Blob

/-- The food that a blob puts at a distance, looked up if it is worked out already. -/
def amount (blob : Blob) (distance : Nat) : Except Fault Int :=
  match blob.amounts[distance]? with
  | some amount => amount
  | none => blobAmount distance blob.radius blob.maxFood

/-- Put the food of one cell of a blob on the grid, up to the greatest amount, and return what was
added. -/
def addCell (blob : Blob) (offset : Offset) : Attempt Grid Int := do
  let grid : Grid ← get
  let cell ← grid.wrap ⟨blob.centre.x + offset.dx, blob.centre.y + offset.dy⟩
  let food ← grid.read cell
  if food < 0 then return 0
  else
    let amount ← blob.amount offset.distance
    let filled := min blob.maxFood (food + amount)
    Grid.store cell filled
    return filled - food

/-- Put the food of some cells of a blob on the grid, one after the other. `added` is the food added
so far. -/
def addCells (blob : Blob) : List Offset → Int → Attempt Grid Int
  | [], added => return added
  | offset :: offsets, added => do
    let more ← blob.addCell offset
    blob.addCells offsets (added + more)

/-- What is looked up is what would be worked out. -/
theorem amount_eq (centre : Cell) (radius maxFood : Int) (distance : Nat) :
    amount { centre, radius, maxFood } distance = blobAmount distance radius maxFood := by
  simp only [amount, blobAmounts, Array.getElem?_ofFn]
  by_cases h : distance < 2 * radius.toNat + 1
  · rw [dif_pos h]
  · rw [dif_neg h]

end Blob

/-- Pile up a blob of food around a cell and return how much food was added. -/
def addBlob (centre : Cell) (radius maxFood : Int) : Attempt Grid Int := do
  let offsets ← blobCells radius
  let blob : Blob := { centre, radius, maxFood }
  blob.addCells offsets 0

end Vivarium
