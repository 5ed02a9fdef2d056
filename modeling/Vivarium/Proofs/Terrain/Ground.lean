import Mathlib.Algebra.BigOperators.Group.List.Basic
import Mathlib.Algebra.Ring.Int.Defs
import Vivarium.Terrain.Grid

/-!
# The ground under a simulation

The cells inside a grid, what they hold, and what one store does to all of them at once. A grid is
bounded when its cells hold obstacles or food up to a greatest amount; it is tended when its extent
and its obstacles stay where they are. Plant mass changes by the food of the one cell stored.
-/

namespace Vivarium.Grid

/-- Whether a cell lies among the columns and rows of a grid. -/
def Inside (grid : Grid) (cell : Cell) : Prop :=
  0 ≤ cell.x ∧ cell.x < grid.width ∧ 0 ≤ cell.y ∧ cell.y < grid.height

/-- The cell of the torus under a cell of the plane. -/
def wrapped (grid : Grid) (cell : Cell) : Cell :=
  ⟨cell.x % grid.width, cell.y % grid.height⟩

/-- What a cell holds, and zero for a cell out of bounds. -/
def valueAt (grid : Grid) (cell : Cell) : Int :=
  match grid.read cell with
  | .ok value => value
  | .error _ => 0

/-- The grid with the value of a cell replaced, if the cell is there. -/
def put (grid : Grid) (cell : Cell) (value : Int) : Grid :=
  match grid.locate cell with
  | .ok (x, y) => grid.update x y value
  | .error _ => grid

/-- A cell inside is the cell of a column and a row. -/
theorem exists_natCast_of_inside {grid : Grid} {cell : Cell} (h : grid.Inside cell) :
    ∃ (x : Fin grid.width) (y : Fin grid.height), cell = ⟨x.val, y.val⟩ := by
  obtain ⟨x, y⟩ := cell
  obtain ⟨hx, hx', hy, hy'⟩ := h
  dsimp only at hx hx' hy hy'
  refine ⟨⟨x.toNat, by omega⟩, ⟨y.toNat, by omega⟩, ?_⟩
  simp only [Cell.mk.injEq]
  omega

/-- Every column and row is the place of a cell inside. -/
theorem inside_natCast (grid : Grid) (x : Fin grid.width) (y : Fin grid.height) :
    grid.Inside ⟨x.val, y.val⟩ := by
  have hx := x.isLt
  have hy := y.isLt
  refine ⟨?_, ?_, ?_, ?_⟩ <;> dsimp only <;> omega

/-- On a torus with cells, every cell of the plane has a cell under it. -/
theorem inside_wrapped {grid : Grid} (hw : 0 < grid.width) (hh : 0 < grid.height) (cell : Cell) :
    grid.Inside (grid.wrapped cell) :=
  ⟨(wrapAround_of_pos hw cell.x).2.1, (wrapAround_of_pos hw cell.x).2.2,
    (wrapAround_of_pos hh cell.y).2.1, (wrapAround_of_pos hh cell.y).2.2⟩

/-- A cell inside is under itself. -/
theorem wrapped_of_inside {grid : Grid} {cell : Cell} (h : grid.Inside cell) :
    grid.wrapped cell = cell := by
  obtain ⟨hx, hx', hy, hy'⟩ := h
  rw [wrapped, Int.emod_eq_of_lt hx hx', Int.emod_eq_of_lt hy hy']

/-- A cell of the plane is brought onto a torus with cells without a fault. -/
theorem wrap_eq {grid : Grid} (hw : 0 < grid.width) (hh : 0 < grid.height) (cell : Cell) :
    grid.wrap cell = .ok (grid.wrapped cell) := by
  rw [wrap, (wrapAround_of_pos hw cell.x).1, (wrapAround_of_pos hh cell.y).1]
  rfl

/-- A column and row hold what their cell holds. -/
theorem valueAt_natCast (grid : Grid) (x : Fin grid.width) (y : Fin grid.height) :
    grid.valueAt ⟨x.val, y.val⟩ = grid.value x y := by
  rw [valueAt, read_natCast]

/-- A cell inside is read without a fault. -/
theorem read_of_inside {grid : Grid} {cell : Cell} (h : grid.Inside cell) :
    grid.read cell = .ok (grid.valueAt cell) := by
  obtain ⟨x, y, rfl⟩ := exists_natCast_of_inside h
  rw [read_natCast, valueAt_natCast]

/-- Grids with the same extent and values are the same. -/
theorem ext_valueAt {grid other : Grid} (hw : grid.width = other.width)
    (hh : grid.height = other.height)
    (values : ∀ cell, grid.Inside cell → grid.valueAt cell = other.valueAt cell) :
    grid = other := by
  obtain ⟨width, height, cells⟩ := grid
  obtain ⟨_, _, others⟩ := other
  obtain rfl : width = _ := hw
  obtain rfl : height = _ := hh
  have same : cells = others := by
    apply Vector.ext
    intro place hp
    have wide : 0 < width := Nat.pos_of_mul_pos_left (Nat.lt_of_le_of_lt (Nat.zero_le _) hp)
    have hx : place % width < width := Nat.mod_lt _ wide
    have hy : place / width < height := Nat.div_lt_of_lt_mul (by rwa [Nat.mul_comm])
    have value := values _ (inside_natCast ⟨width, height, cells⟩ ⟨_, hx⟩ ⟨_, hy⟩)
    rw [valueAt_natCast ⟨width, height, cells⟩ ⟨_, hx⟩ ⟨_, hy⟩,
      valueAt_natCast ⟨width, height, others⟩ ⟨_, hx⟩ ⟨_, hy⟩] at value
    have position : place / width * width + place % width = place := Nat.div_add_mod' place width
    simp only [Grid.value, position] at value
    exact value
  rw [same]

/-- A value that fits is stored in a cell inside. -/
theorem outcome_store_of_inside {grid : Grid} {cell : Cell} (h : grid.Inside cell) {value : Int}
    (hv : fits value) : (store cell value).outcome grid = (.ok (), grid.put cell value) := by
  obtain ⟨x, y, rfl⟩ := exists_natCast_of_inside h
  rw [outcome_store_natCast grid x y hv, put, locate_natCast]

/-- A value that does not fit is not stored. -/
theorem outcome_store_of_overflow {grid : Grid} {cell : Cell} (h : grid.Inside cell) {value : Int}
    (hv : ¬ fits value) : (store cell value).outcome grid = (.error (overflow value), grid) := by
  obtain ⟨x, y, rfl⟩ := exists_natCast_of_inside h
  simp only [Attempt.outcome, store, locate_natCast, if_neg hv]

/-- A store leaves the extent, whatever it comes to. -/
theorem extent_outcome_store (cell : Cell) (value : Int) (grid : Grid) :
    ((store cell value).outcome grid).2.width = grid.width ∧
      ((store cell value).outcome grid).2.height = grid.height := by
  simp only [Attempt.outcome, store]
  cases grid.locate cell with
  | error fault => exact ⟨rfl, rfl⟩
  | ok place =>
    dsimp only
    by_cases hv : fits value
    · rw [if_pos hv]
      exact ⟨rfl, rfl⟩
    · rw [if_neg hv]
      exact ⟨rfl, rfl⟩

@[simp] theorem width_put (grid : Grid) (cell : Cell) (value : Int) :
    (grid.put cell value).width = grid.width := by
  rw [put]
  cases grid.locate cell <;> rfl

@[simp] theorem height_put (grid : Grid) (cell : Cell) (value : Int) :
    (grid.put cell value).height = grid.height := by
  rw [put]
  cases grid.locate cell <;> rfl

/-- A store moves no bound, so the cells inside stay the same. -/
@[simp] theorem inside_put {grid : Grid} {cell other : Cell} {value : Int} :
    (grid.put cell value).Inside other ↔ grid.Inside other := by
  simp only [Inside, width_put, height_put]

/-- After a store the one cell holds the new value and all others hold what they held. -/
theorem valueAt_put {grid : Grid} {cell other : Cell} (h : grid.Inside cell)
    (h' : grid.Inside other) (value : Int) :
    (grid.put cell value).valueAt other = if other = cell then value else grid.valueAt other := by
  obtain ⟨x, y, rfl⟩ := exists_natCast_of_inside h
  obtain ⟨x', y', rfl⟩ := exists_natCast_of_inside h'
  have after : (grid.put ⟨x.val, y.val⟩ value).valueAt ⟨x'.val, y'.val⟩ =
      (grid.update x y value).value x' y' := by
    rw [put, locate_natCast]
    exact valueAt_natCast (grid.update x y value) x' y'
  rw [after, valueAt_natCast]
  by_cases same : x' = x ∧ y' = y
  · obtain ⟨rfl, rfl⟩ := same
    rw [if_pos rfl]
    exact value_update_self grid x' y' value
  · have apart : x ≠ x' ∨ y ≠ y' := by
      by_cases hx : x = x'
      · exact .inr fun hy => same ⟨hx.symm, hy.symm⟩
      · exact .inl hx
    rw [if_neg, value_update_of_ne grid value apart]
    intro equal
    simp only [Cell.mk.injEq] at equal
    exact same ⟨Fin.ext (by omega), Fin.ext (by omega)⟩

/-! ## Bounds -/

/-- Whether every cell holds an obstacle or food up to an amount. -/
def Bounded (maxFood : Int) (grid : Grid) : Prop :=
  ∀ cell, grid.Inside cell → obstacle ≤ grid.valueAt cell ∧ grid.valueAt cell ≤ maxFood

/-- The cells of an empty grid hold nothing. -/
theorem valueAt_empty {width height : Nat} {cell : Cell} (h : (empty width height).Inside cell) :
    (empty width height).valueAt cell = 0 := by
  obtain ⟨x, y, rfl⟩ := exists_natCast_of_inside h
  rw [valueAt_natCast]
  simp [value, empty, Vector.get]

/-- An empty grid is bounded. -/
theorem bounded_empty {maxFood : Int} (h : 0 ≤ maxFood) (width height : Nat) :
    (empty width height).Bounded maxFood := by
  intro cell hc
  rw [valueAt_empty hc]
  exact ⟨by decide, h⟩

/-- Storing a value within the bounds leaves the grid bounded, wherever it goes. -/
theorem Bounded.store {maxFood value : Int} {grid : Grid} (h : grid.Bounded maxFood)
    (hl : obstacle ≤ value) (hu : value ≤ maxFood) (cell : Cell) :
    ((Grid.store cell value).outcome grid).2.Bounded maxFood := by
  simp only [Attempt.outcome, Grid.store]
  cases grid.locate cell with
  | error fault => exact h
  | ok place =>
    obtain ⟨x, y⟩ := place
    dsimp only
    by_cases hv : fits value
    · rw [if_pos hv]
      intro other ho
      have put_eq : grid.update x y value = grid.put ⟨x.val, y.val⟩ value := by
        rw [put, locate_natCast]
      have inside : grid.Inside other := ho
      dsimp only
      rw [put_eq, valueAt_put (inside_natCast grid x y) inside]
      split
      · exact ⟨hl, hu⟩
      · exact h other inside
    · rw [if_neg hv]
      exact h

/-! ## Obstacles -/

/-- What care for the ground comes to: the extent and the obstacles stay, and so do the bounds. -/
structure Tended (maxFood : Int) (before after : Grid) : Prop where
  width : after.width = before.width
  height : after.height = before.height
  obstacles : ∀ cell, before.Inside cell →
    (after.valueAt cell = obstacle ↔ before.valueAt cell = obstacle)
  bounded : before.Bounded maxFood → after.Bounded maxFood

namespace Tended

variable {maxFood : Int} {first second third : Grid}

/-- Ground left alone is tended. -/
theorem refl (grid : Grid) : Tended maxFood grid grid :=
  ⟨rfl, rfl, fun _ _ => Iff.rfl, id⟩

/-- The cells inside tended ground are those that were inside before. -/
theorem inside_iff (h : Tended maxFood first second) {cell : Cell} :
    second.Inside cell ↔ first.Inside cell := by
  simp only [Inside, h.width, h.height]

/-- Ground tended twice is tended. -/
theorem trans (h : Tended maxFood first second) (h' : Tended maxFood second third) :
    Tended maxFood first third where
  width := h'.width.trans h.width
  height := h'.height.trans h.height
  obstacles cell hc := (h'.obstacles cell (h.inside_iff.mpr hc)).trans (h.obstacles cell hc)
  bounded hb := h'.bounded (h.bounded hb)

/-- A cell with food keeps holding food, none at the least. -/
theorem food_nonneg (h : Tended maxFood first second) (hb : first.Bounded maxFood) {cell : Cell}
    (hc : first.Inside cell) (food : 0 ≤ first.valueAt cell) : 0 ≤ second.valueAt cell := by
  have low := (h.bounded hb cell (h.inside_iff.mpr hc)).1
  have clear := (h.obstacles cell hc).not.mpr (by simp only [obstacle]; omega)
  simp only [obstacle] at low clear
  omega

/-- Replacing food by food tends the ground. -/
theorem put {grid : Grid} {cell : Cell} {value : Int} (hc : grid.Inside cell)
    (food : 0 ≤ grid.valueAt cell) (hl : 0 ≤ value) (hu : value ≤ maxFood) :
    Tended maxFood grid (grid.put cell value) where
  width := width_put grid cell value
  height := height_put grid cell value
  obstacles other ho := by
    rw [valueAt_put hc ho]
    by_cases same : other = cell
    · subst same
      rw [if_pos rfl]
      simp only [obstacle]
      omega
    · rw [if_neg same]
  bounded hb other ho := by
    have inside := inside_put.mp ho
    rw [valueAt_put hc inside]
    split
    · exact ⟨by simp only [obstacle]; omega, hu⟩
    · exact hb other inside

end Tended

/-! ## Plant mass -/

/-- Plant mass is the sum of what cells hold beyond nothing. -/
theorem plantMass_eq_sum (grid : Grid) :
    grid.plantMass = (grid.cells.toList.map (max 0)).sum := by
  have accumulate (cells : List Int) (sum : Int) :
      cells.foldl (fun sum cell => if 0 < cell then sum + cell else sum) sum =
        sum + (cells.map (max 0)).sum := by
    induction cells generalizing sum with
    | nil => simp
    | cons cell cells ih =>
      rw [List.foldl_cons, ih, List.map_cons, List.sum_cons]
      split <;> omega
  rw [plantMass, ← Vector.foldl_toList, accumulate, zero_add]

/-- Storing a value exchanges the food of its cell. -/
theorem plantMass_put {grid : Grid} {cell : Cell} (h : grid.Inside cell) (value : Int) :
    (grid.put cell value).plantMass =
      grid.plantMass - max 0 (grid.valueAt cell) + max 0 value := by
  obtain ⟨x, y, rfl⟩ := exists_natCast_of_inside h
  have place := place_lt x.isLt y.isLt
  rw [put, locate_natCast, valueAt_natCast, plantMass_eq_sum, plantMass_eq_sum]
  change ((grid.cells.set _ value place).toList.map (max 0)).sum = _
  have length : y.val * grid.width + x.val < (grid.cells.toList.map (max 0)).length := by
    simpa using place
  rw [Vector.toList_set, List.map_set, List.sum_set', dif_pos length]
  have old :
      (grid.cells.toList.map (max 0))[y.val * grid.width + x.val] = max 0 (grid.value x y) := by
    rw [List.getElem_map, Vector.getElem_toList]
    rfl
  rw [old]
  omega

end Vivarium.Grid
