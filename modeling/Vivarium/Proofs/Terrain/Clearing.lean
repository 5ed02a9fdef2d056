import Mathlib.Data.Finset.Card
import Mathlib.Data.Fintype.Basic
import Mathlib.Data.Fintype.Prod
import Mathlib.Data.List.Nodup
import Vivarium.Proofs.Terrain.Ground

/-!
# Clear cells

The clear cells of a grid are those without an obstacle, which is where animals can stand. Ground
that is tended has the same clear cells as before. The contents of a grid name every cell once.
-/

namespace Vivarium.Grid

variable {grid : Grid} {cell : Cell}

/-- The cells that hold no obstacle. -/
def clearCells (grid : Grid) : Finset Cell :=
  (Finset.univ.filter fun place : Fin grid.width × Fin grid.height =>
    grid.value place.1 place.2 ≠ obstacle).image fun place => ⟨place.1, place.2⟩

/-- A cell is clear if it is inside and holds no obstacle. -/
theorem mem_clearCells :
    cell ∈ grid.clearCells ↔ grid.Inside cell ∧ grid.valueAt cell ≠ obstacle := by
  simp only [clearCells, Finset.mem_image, Finset.mem_filter, Finset.mem_univ, true_and,
    Prod.exists]
  constructor
  · rintro ⟨x, y, clear, rfl⟩
    rw [valueAt_natCast]
    exact ⟨inside_natCast grid x y, clear⟩
  · rintro ⟨inside, clear⟩
    obtain ⟨x, y, rfl⟩ := exists_natCast_of_inside inside
    rw [valueAt_natCast] at clear
    exact ⟨x, y, clear, rfl⟩

/-- On bounded ground a cell is clear if it is inside and holds food, none at the least. -/
theorem Bounded.mem_clearCells {maxFood : Int} (h : grid.Bounded maxFood) :
    cell ∈ grid.clearCells ↔ grid.Inside cell ∧ 0 ≤ grid.valueAt cell := by
  rw [Grid.mem_clearCells]
  refine and_congr_right fun inside => ?_
  have low := (h cell inside).1
  simp only [obstacle] at low ⊢
  omega

/-- Tended ground has the same clear cells as before. -/
theorem Tended.clearCells_eq {maxFood : Int} {before after : Grid}
    (h : Tended maxFood before after) : after.clearCells = before.clearCells := by
  ext cell
  rw [mem_clearCells, mem_clearCells, h.inside_iff]
  exact and_congr_right fun inside => (h.obstacles cell inside).not

/-- The contents of a grid name no cell twice. -/
theorem nodup_contents (grid : Grid) : (grid.contents.map Prod.fst).Nodup := by
  rw [contents]
  split
  · exact List.nodup_nil
  · rw [List.map_flatMap, List.nodup_flatMap]
    constructor
    · intro y _
      rw [List.map_map]
      refine (List.nodup_finRange _).map fun x x' same => ?_
      simp only [Function.comp_apply, Cell.mk.injEq] at same
      exact Fin.ext (by omega)
    · refine (List.nodup_finRange _).imp fun {y y'} apart => ?_
      simp only [Function.onFun, List.map_map]
      intro cell row row'
      obtain ⟨x, -, rfl⟩ := List.mem_map.mp row
      obtain ⟨x', -, same⟩ := List.mem_map.mp row'
      simp only [Function.comp_apply, Cell.mk.injEq] at same
      exact apart (Fin.ext (by omega))

end Vivarium.Grid
