import Vivarium.Number.Word
import Vivarium.Terrain.Grid

/-!
# Windows

A window shows a grid with a square of pixels for every cell and a line of text below. Only the lower
half of the sides that are asked for counts, and no side can be longer than a limit.
-/

namespace Vivarium

/-- The pixels of a cell along each side. -/
def cellPixels : Nat := 5

/-- The pixels that a window leaves for the status line. -/
def statusHeight : Nat := 28

/-- A window. -/
structure Window where
  /-- The number of columns of pixels that are asked for. -/
  width : Nat
  /-- The number of rows of pixels that are asked for. -/
  height : Nat
  /-- The title, once the window is open. -/
  title : Option String := none
  deriving DecidableEq, Repr

namespace Window

/-- The window for a grid, not opened yet. -/
def ofGrid (grid : Grid) : Window where
  width := grid.width * cellPixels
  height := grid.height * cellPixels + statusHeight

/-- The longest side that a window can have. -/
def longestSide : Int := 16384

/-- Open a window. -/
def opened (window : Window) : Except Fault Window := do
  unless fitsWord window.width && fitsWord window.height do throw .windowSize
  let width := lowerHalf window.width
  let height := lowerHalf window.height
  if width < 0 ∨ height < 0 then throw .negativeWindow
  if longestSide < width ∨ longestSide < height then throw .windowTooLarge
  return { window with title := some "lispworld" }

/-- A window whose sides keep to the limit can be opened. -/
theorem opened_of_le {window : Window} (hw : window.width ≤ 16384) (hh : window.height ≤ 16384) :
    window.opened = .ok { window with title := some "lispworld" } := by
  have fitsWidth : fitsWord window.width := fitsWord_iff.mpr (by omega)
  have fitsHeight : fitsWord window.height := fitsWord_iff.mpr (by omega)
  have halfWidth : lowerHalf window.width = window.width := lowerHalf_of_lt (by omega) (by omega)
  have halfHeight : lowerHalf window.height = window.height := lowerHalf_of_lt (by omega) (by omega)
  have nonnegative : ¬((window.width : Int) < 0 ∨ (window.height : Int) < 0) := by omega
  have short : ¬(longestSide < (window.width : Int) ∨ longestSide < (window.height : Int)) := by
    simp only [longestSide]
    omega
  simp only [opened, fitsWidth, fitsHeight, halfWidth, halfHeight, Bool.and_self, if_true]
  rw [if_neg nonnegative, if_neg short]
  rfl

end Window

end Vivarium
