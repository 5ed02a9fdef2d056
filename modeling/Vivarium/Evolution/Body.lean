import Vivarium.Random.Source
import Vivarium.Sprite.Shape

/-!
# Generation and mutation of bodies

New bodies are drawn at random until one is valid, and mutated bodies differ from their origin in one
cell and its mirror image. The head cells are always on and the corners always off.
-/

namespace Vivarium

variable {G : Type} [Source G]

/-- Whether a cell may be changed by a mutation. -/
def flippable (row column : Int) : Bool :=
  (Sprite.corners ++ Sprite.headCells).all fun cell => (row, column) ≠ ((cell.1 : Int), (cell.2 : Int))

/-- Draw `count` values in order. -/
def drawMany {α : Type} (draw : Draw G α) : (count : Nat) → Draw G (List α)
  | 0 => return []
  | count + 1 => do
    let first ← draw
    let rest ← drawMany draw count
    return first :: rest

/-- The body whose left half, with the middle column, is on as told. It is mirrored to the right,
head cells are on and corners off. -/
def bodyOfHalf (half : List (List Bool)) : Sprite :=
  let isOn (row column : Nat) : Bool :=
    let mirrored := min column (Sprite.side - 1 - column)
    !Sprite.corners.contains (row, column) &&
      (Sprite.headCells.contains (row, column) ||
        ((half[row]?.bind (·[mirrored]?)).getD false))
  ⟨(List.range Sprite.side).map fun row => (List.range Sprite.side).map (isOn row)⟩

/-- A random body in whose left half each cell is on with the given chance. Every cell of the half
is drawn, row by row. -/
def drawBody (density : Number) : Draw G Sprite := do
  let half ← drawMany (drawMany (Draw.chance density) Sprite.halfWidth) Sprite.side
  return bodyOfHalf half

/-- The chance of a cell in a generated body. -/
def bodyDensity : Number := .double (Double.ofRat (4 / 10))

/-- The number of bodies drawn before the standard one is taken. -/
def generationAttempts : Nat := 100

/-- The number of cells drawn before a mutation is given up. -/
def mutationAttempts : Nat := 30

/-- The first valid body among `attempts` random ones, or the standard one if none is valid. -/
def generateBody : (attempts : Nat) → Attempt G Sprite
  | 0 => return .standard
  | attempts + 1 => do
    let body ← (drawBody bodyDensity : Draw G _)
    if ← body.isValid then return body else generateBody attempts

/-- The body with a cell and its mirror image switched, and the corners off. -/
def flipped (body : Sprite) (row column : Nat) : Except Fault Sprite := do
  let on ← body.isOn row column
  body.changed do
    Sprite.switchMirrored row column (!on)
    Sprite.clearCorners

/-- The body with one cell of its left half and the mirror image switched, the first among `attempts`
random cells for which that is allowed and gives a valid body, or the body itself if none does. -/
def mutateBody (body : Sprite) : (attempts : Nat) → Attempt G Sprite
  | 0 => return body
  | attempts + 1 => do
    let row ← (Draw.below Sprite.side (by decide) : Draw G _)
    let column ← (Draw.below Sprite.halfWidth (by decide) : Draw G _)
    if flippable row.val column.val then
      let candidate ← flipped body row.val column.val
      if ← candidate.isValid then return candidate else mutateBody body attempts
    else mutateBody body attempts

end Vivarium
