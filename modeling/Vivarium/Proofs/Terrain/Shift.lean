import Mathlib.Data.Int.ModEq
import Vivarium.Proofs.Terrain.Ground

/-!
# Shifted ground

A shift moves every cell of a torus by the same columns and rows. It takes the cells inside a grid
one to one to the cells inside, and brings neighbours to neighbours. What a cell holds moves with
it, and storing a value before a shift is storing it after the shift where the cell has gone.
-/

namespace Vivarium

/-- A shift of a torus. -/
structure Shift where
  /-- The columns by which everything moves to the right. -/
  columns : Int
  /-- The rows by which everything moves down. -/
  rows : Int

namespace Grid

/-- The cell to which a shift takes a cell. -/
def moved (grid : Grid) (s : Shift) (cell : Cell) : Cell :=
  grid.wrapped ⟨cell.x + s.columns, cell.y + s.rows⟩

/-- The shifted grid: every cell holds what the cell did from which it was reached. -/
def shifted (grid : Grid) (s : Shift) : Grid :=
  { grid with
    cells := Vector.ofFn fun place =>
      grid.valueAt (grid.wrapped
        ⟨(place.val % grid.width : Nat) - s.columns, (place.val / grid.width : Nat) - s.rows⟩) }

variable {grid : Grid} {s : Shift}

@[simp] theorem width_shifted (grid : Grid) (s : Shift) : (grid.shifted s).width = grid.width := rfl

@[simp] theorem height_shifted (grid : Grid) (s : Shift) :
    (grid.shifted s).height = grid.height := rfl

/-- A shift moves no bound, so the cells inside stay the same. -/
@[simp] theorem inside_shifted {cell : Cell} : (grid.shifted s).Inside cell ↔ grid.Inside cell :=
  Iff.rfl

/-- A store moves no bound, so a shift takes cells where it took them. -/
@[simp] theorem moved_put (grid : Grid) (cell : Cell) (value : Int) (s : Shift) :
    (grid.put cell value).moved s = grid.moved s := by
  funext other
  simp only [moved, wrapped, width_put, height_put]

/-- A step from where a shift takes a cell ends where the shift takes the end of the step. -/
theorem wrapped_moved (grid : Grid) (s : Shift) (cell : Cell) (dx dy : Int) :
    grid.wrapped ⟨(grid.moved s cell).x + dx, (grid.moved s cell).y + dy⟩ =
      grid.moved s (grid.wrapped ⟨cell.x + dx, cell.y + dy⟩) := by
  simp only [moved, wrapped, Int.emod_add_emod, Cell.mk.injEq]
  constructor <;> rw [add_right_comm]

/-- Different cells inside are taken to different cells. -/
theorem moved_injective {cell other : Cell} (h : grid.Inside cell) (h' : grid.Inside other)
    (same : grid.moved s cell = grid.moved s other) : cell = other := by
  simp only [moved, wrapped, Cell.mk.injEq, Int.emod_add_cancel_right] at same
  rw [← wrapped_of_inside h, ← wrapped_of_inside h', wrapped, wrapped, same.1, same.2]

/-- A cell inside is reached from the cell from which a shift takes it over. -/
theorem moved_wrapped_sub {cell : Cell} (h : grid.Inside cell) :
    grid.moved s (grid.wrapped ⟨cell.x - s.columns, cell.y - s.rows⟩) = cell := by
  rw [← wrapped_of_inside h]
  simp only [moved, wrapped, Int.emod_add_emod, Int.emod_sub_emod, sub_add_cancel]

/-- A cell of a shifted grid holds what the cell did from which it was reached. -/
theorem valueAt_shifted {cell : Cell} (h : grid.Inside cell) :
    (grid.shifted s).valueAt cell =
      grid.valueAt (grid.wrapped ⟨cell.x - s.columns, cell.y - s.rows⟩) := by
  obtain ⟨x, y, rfl⟩ := exists_natCast_of_inside h
  have wide : 0 < grid.width := Nat.zero_lt_of_lt x.isLt
  have column : (y.val * grid.width + x.val) % grid.width = x.val := by
    rw [Nat.mul_comm, Nat.mul_add_mod, Nat.mod_eq_of_lt x.isLt]
  have row : (y.val * grid.width + x.val) / grid.width = y.val := by
    rw [Nat.mul_comm, Nat.mul_add_div wide, Nat.div_eq_of_lt x.isLt, Nat.add_zero]
  have place : y.val * grid.width + x.val < grid.height * grid.width := place_lt x.isLt y.isLt
  refine (valueAt_natCast (grid.shifted s) x y).trans ?_
  change (Vector.ofFn fun place : Fin (grid.height * grid.width) => _)[y.val * grid.width + x.val] =
    _
  simp only [Vector.getElem_ofFn, column, row]

variable (hw : 0 < grid.width) (hh : 0 < grid.height)

include hw hh

/-- A shift takes every cell inside. -/
theorem inside_moved (s : Shift) (cell : Cell) : grid.Inside (grid.moved s cell) :=
  inside_wrapped hw hh _

/-- What a cell holds moves with it. -/
theorem valueAt_moved {cell : Cell} (h : grid.Inside cell) :
    (grid.shifted s).valueAt (grid.moved s cell) = grid.valueAt cell := by
  rw [valueAt_shifted (inside_moved hw hh s cell)]
  congr 1
  apply moved_injective (s := s) (inside_wrapped hw hh _) h
  exact moved_wrapped_sub (inside_moved hw hh s cell)

/-- A value stored before a shift is stored after it where the cell has gone. -/
theorem shifted_put {cell : Cell} (h : grid.Inside cell) (value : Int) :
    (grid.put cell value).shifted s = (grid.shifted s).put (grid.moved s cell) value := by
  have moves := inside_moved hw hh s cell
  refine ext_valueAt (by simp) (by simp) fun other ho => ?_
  have inside : grid.Inside other := inside_put.mp ho
  have back := inside_wrapped hw hh ⟨other.x - s.columns, other.y - s.rows⟩
  have same : (grid.put cell value).wrapped = grid.wrapped := by
    funext c
    simp only [wrapped, width_put, height_put]
  rw [valueAt_shifted (inside_put.mpr inside), same, valueAt_put h back,
    valueAt_put (inside_shifted.mpr moves) (inside_shifted.mpr inside), valueAt_shifted inside]
  have goes : grid.wrapped ⟨other.x - s.columns, other.y - s.rows⟩ = cell ↔
      other = grid.moved s cell := by
    constructor
    · rintro rfl
      exact (moved_wrapped_sub inside).symm
    · intro reached
      apply moved_injective (s := s) back h
      rw [moved_wrapped_sub inside, reached]
  simp only [goes]

/-- A shift leaves bounded ground bounded. -/
theorem Bounded.shifted {maxFood : Int} (h : grid.Bounded maxFood) (s : Shift) :
    (grid.shifted s).Bounded maxFood := by
  intro cell hc
  rw [valueAt_shifted (inside_shifted.mp hc)]
  exact h _ (inside_wrapped hw hh _)

end Grid

end Vivarium
