import Vivarium.Display.Color
import Vivarium.Number.Word
import Vivarium.World.Report

/-!
# Surfaces

A surface is a rectangle of pixels. The ground of a world is drawn with a square of pixels for every
cell, and animals over it as bodies of smaller squares that reach over the edges of their cells. Only
the lower half of a place or an extent counts, so the picture of a ground is resized to whatever extent
the scale comes to.
-/

namespace Vivarium

/-- A rectangle of pixels, row by row. -/
structure Surface where
  /-- The rows of pixels. -/
  rows : Array (Array Color)
  deriving Inhabited

/-- The places from `start` on, `size` at most, that lie among the first `extent`. -/
def clipped (start size : Int) (extent : Nat) : List Nat :=
  let first := start.toNat
  List.range' first (min (start + size) extent - first).toNat

/-- An array stretched or shrunk to a number of elements: each is the one at the same part of the
way. -/
def stretched {α : Type} (count : Nat) (items : Array α) : Array α :=
  (Array.range count).filterMap fun i => items[i * items.size / count]?

namespace Surface

/-- The most bytes that a row of pixels can take. -/
def rowLimit : Int := 2147483647

/-- The bytes that a pixel takes. -/
def pixelBytes : Int := 4

/-- Refuse an extent that no surface can have. -/
def checkExtent (width height : Int) : Except Fault Unit :=
  if width < 0 then .error .negativeWidth
  else if height < 0 then .error .negativeHeight
  else if rowLimit < pixelBytes * width then .error .surfaceMemory
  else .ok ()

/-- The extent of a surface that is asked for. -/
def extent (width height : Int) : Except Fault (Nat × Nat) := do
  unless fitsWord width && fitsWord height do throw .surfaceSize
  let width := lowerHalf width
  let height := lowerHalf height
  if width < 0 ∨ height < 0 then throw .negativeSurface
  checkExtent width height
  return (width.toNat, height.toNat)

/-- The bytes that a shade takes before it is a colour. -/
def shadeBytes : Int := 4

/-- The extent of the ground of a grid at a scale. The shades have to find room first, then a picture
with one pixel for every cell, and then that picture at the scale. -/
def groundExtent (grid : Grid) (maxFood scale : Int) : Except Fault (Nat × Nat) := do
  let _ ← Grid.countBytes (← Grid.countBytes shadeBytes grid.height) grid.width
  let _ ← Color.measure maxFood
  let width := lowerHalf grid.width
  let height := lowerHalf grid.height
  checkExtent width height
  unless width = grid.width && height = grid.height do throw .pictureMismatch
  let width := lowerHalf (grid.width * scale)
  let height := lowerHalf (grid.height * scale)
  if width < 0 ∨ height < 0 then throw .negativeScale
  checkExtent width height
  return (width.toNat, height.toNat)

/-- A surface of one colour. -/
def filled (width height : Nat) (color : Color) : Surface :=
  ⟨Array.replicate height (Array.replicate width color)⟩

/-- The surface stretched or shrunk to an extent. -/
def resized (surface : Surface) (width height : Nat) : Surface :=
  ⟨stretched height (surface.rows.map (stretched width))⟩

/-- The surface with a rectangle filled, as far as it lies on it. -/
def fillRect (surface : Surface) (left top width height : Int) (color : Color) : Surface :=
  let paint (row : Array Color) : Array Color :=
    (clipped left width row.size).foldl (fun row x => row.setIfInBounds x color) row
  ⟨(clipped top height surface.rows.size).foldl (fun rows y => rows.modify y paint) surface.rows⟩

/-- The left and top edges of the squares of a given size, one for every cell of a body that is on,
that make up the body around a middle. -/
def squares (body : Sprite) (middleX middleY size : Int) : List (Int × Int) :=
  let half := size / 2
  body.cells.zipIdx.flatMap fun (row, r) =>
    row.zipIdx.filterMap fun (on, c) =>
      if on then some (middleX + (c - 2) * size - half, middleY + (r - 2) * size - half) else none

/-- Fill some squares of one size and colour, given by their left and top edges. -/
def drawSquares (size : Int) (color : Color) : Surface → List (Int × Int) → Except Fault Surface
  | surface, [] => .ok surface
  | surface, (left, top) :: rest =>
    if !(fitsWord left && fitsWord top && fitsWord size) then .error .placeTooLarge
    else if !color.isShowable then .error .colorRange
    else
      drawSquares size color
        (surface.fillRect (lowerHalf left) (lowerHalf top) (lowerHalf size) (lowerHalf size) color)
        rest

variable {G : Type}

/-- The ground of a world, a square of `scale` by `scale` pixels for every cell. -/
def ofGround (world : World G) (scale : Int) : Except Fault Surface := do
  let (width, height) ← groundExtent world.grid world.settings.maxFood scale
  let colors ← Color.ofRows world.grid.rows world.settings.maxFood
  return resized ⟨(colors.map List.toArray).toArray⟩ width height

/-- The surface with some animals drawn over it, later ones over earlier ones. Cells of bodies are a
third of the scale wide. -/
def drawAnimals (scale : Int) : Surface → List Animal → Except Fault Surface
  | surface, [] => .ok surface
  | surface, animal :: rest => do
    let color ← Color.ofAnimal animal.color animal.energy
    let body ← animal.turnedBody
    let middle (place : Int) : Int := place * scale + scale / 2
    let size := max 1 (scale / 3)
    let places := squares body (middle animal.cell.x) (middle animal.cell.y) size
    drawAnimals scale (← drawSquares size color surface places) rest

/-- The ground of a world on a surface of its own. -/
def requestGround (world : World G) (scale : Int) : Except Fault Surface := do
  let _ ← extent (world.grid.width * scale) (world.grid.height * scale)
  ofGround world scale

/-- The animals of a world over plain ground, on a surface of their own. -/
def requestAnimals (world : World G) (scale : Int) : Except Fault Surface := do
  let (width, height) ← extent (world.grid.width * scale) (world.grid.height * scale)
  drawAnimals scale (filled width height Color.background) (world.residents.map (·.2))

end Surface

end Vivarium
