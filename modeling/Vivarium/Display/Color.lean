import Vivarium.Number.Basic

/-!
# Colours

The palette of the display: fixed colours for the ground, shades of green for food, and a blend of
red and blue for animals that fades with their energy. Shades of food are worked out in single
precision, every operation rounded by itself, against the greatest amount, which is brought to single
precision once for a whole grid.
-/

namespace Vivarium

/-- A colour by its parts of red, green and blue. -/
structure Color where
  red : Int
  green : Int
  blue : Int
  deriving DecidableEq, Repr, Inhabited

namespace Color

/-- The colour of bare ground. -/
def background : Color := ⟨17, 17, 17⟩

/-- The colour of obstacles. -/
def ofObstacle : Color := ⟨102, 102, 102⟩

/-- The colour of the status line. -/
def statusText : Color := ⟨235, 235, 235⟩

/-- The colour behind the status line. -/
def statusBackground : Color := ⟨0, 0, 0⟩

/-- The energy from which on an animal has its full colour. -/
def fullEnergy : Int := 200

/-- How bright an animal is shown, between zero and one. -/
def intensity (energy : Int) : Except Fault Double := do
  let ratio ← Double.ofQuotient energy fullEnergy
  let capped := if ratio.lt (.finite 1) then ratio else .finite 1
  return if (Double.finite 0).lt capped then capped else .finite 0

/-- A part of a colour at an intensity, without its fraction. -/
def dimmed (part : Int) (intensity : Double) : Except Fault Int := do
  (← (Number.int part).mul (.double intensity)).truncate

/-- The colour of an animal: red for the high colours of lineages, blue for the low ones. -/
def ofAnimal (color energy : Int) : Except Fault Color := do
  let intensity ← intensity energy
  let red ← dimmed color intensity
  let blue ← dimmed (255 - color) intensity
  return ⟨red, 0, blue⟩

/-- Whether a colour can be shown, which takes parts of one byte. -/
def isShowable (color : Color) : Bool :=
  [color.red, color.green, color.blue].all fun part => 0 ≤ part && part ≤ 255

/-- The nearest number of single precision. -/
def single (x : Rat) : Rat :=
  BinaryFormat.binary32.round x

/-- The greatest amount of food in single precision, which it reaches through double precision. -/
def measure (maxFood : Int) : Except Fault Rat := do
  let most ← Double.ofInt maxFood
  return single (most.toRat?.getD 0)

/-- The part of the greatest amount that a positive amount of food is, between zero and one. -/
def fullness (food : Int) (most : Rat) : Rat :=
  if most = 0 then 1
  else if BinaryFormat.binary32.overflows most then 0
  else
    let ratio := single (food / most)
    if ratio < 0 then 0 else if 1 < ratio then 1 else ratio

/-- The colour of a cell by its value. -/
def ofCell (value : Int) (most : Rat) : Color :=
  if value < 0 then ofObstacle
  else if value = 0 then background
  else
    let full := fullness value most
    let red := single (64 - single (64 * full))
    let green := single (64 + single (191 * full))
    ⟨red.floor, green.floor, 0⟩

/-- The colours of the cells of some rows. -/
def ofRows (rows : List (List Int)) (maxFood : Int) : Except Fault (List (List Color)) := do
  let most ← measure maxFood
  return rows.map fun row => row.map fun value => ofCell value most

/-- A greatest amount beyond the range of doubles is a fault, however few cells there are. -/
theorem ofRows_of_measure {maxFood : Int} {fault : Fault} (h : measure maxFood = .error fault)
    (rows : List (List Int)) : ofRows rows maxFood = .error fault := by
  rw [ofRows, h]
  rfl

end Color

end Vivarium
