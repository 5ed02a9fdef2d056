import Vivarium.Proofs.Attempt
import Vivarium.Proofs.Terrain.Ground
import Vivarium.Terrain.Blob
import Vivarium.Terrain.Obstacles

/-!
# What grows on the ground

Food blobs tend the ground, also when a fault stops them halfway, and a blob that comes to an end
returns the plant mass that it added. Placing obstacles leaves a bounded grid bounded.
-/

namespace Vivarium

/-- The food that a blob puts on a cell is positive. -/
theorem one_le_of_blobAmount {distance radius maxFood amount : Int}
    (h : blobAmount distance radius maxFood = .ok amount) : 1 ≤ amount := by
  rw [blobAmount, bind_eq_ok_iff] at h
  obtain ⟨faded, -, h⟩ := h
  obtain ⟨product, -, h⟩ := bind_eq_ok_iff.mp h
  obtain ⟨whole, -, h⟩ := bind_eq_ok_iff.mp h
  have value : max 1 whole = amount := Except.ok.inj h
  omega

/-- The cell of the torus on which an offset from a cell falls. -/
def Grid.under (grid : Grid) (centre : Cell) (offset : Offset) : Cell :=
  grid.wrapped ⟨centre.x + offset.dx, centre.y + offset.dy⟩

/-- What a change of the ground comes to when it counts the food that it adds: the ground is tended,
and the count at the end is the change of plant mass. -/
def Grid.Gains (maxFood : Int) (before : Grid) (added : Int) (result : Except Fault Int × Grid) :
    Prop :=
  Grid.Tended maxFood before result.2 ∧
    ∀ total, result.1 = .ok total → result.2.plantMass = before.plantMass + (total - added)

namespace Blob

variable {grid : Grid} {maxFood : Int}

/-- One cell of a blob is passed over if an obstacle is there, and filled up by its amount otherwise. -/
theorem outcome_addCell (hw : 0 < grid.width) (hh : 0 < grid.height) (hb : grid.Bounded maxFood)
    (hl : 0 ≤ maxFood) (hu : maxFood ≤ 32767) (centre : Cell) (radius : Int) (offset : Offset) :
    (addCell { centre, radius, maxFood } offset).outcome grid =
      if grid.valueAt (grid.under centre offset) < 0 then (.ok 0, grid)
      else
        match blobAmount offset.distance radius maxFood with
        | .error fault => (.error fault, grid)
        | .ok amount =>
          let filled := min maxFood (grid.valueAt (grid.under centre offset) + amount)
          (.ok (filled - grid.valueAt (grid.under centre offset)),
            grid.put (grid.under centre offset) filled) := by
  have inside : grid.Inside (grid.under centre offset) := Grid.inside_wrapped hw hh _
  have bounds := hb _ inside
  have wrap : grid.wrap ⟨centre.x + offset.dx, centre.y + offset.dy⟩ =
      .ok (grid.under centre offset) := Grid.wrap_eq hw hh _
  rw [addCell, Attempt.outcome_bind_of_ok (Attempt.outcome_get grid),
    Attempt.outcome_bind_of_ok (by rw [wrap, Attempt.outcome_ofExcept]),
    Attempt.outcome_bind_of_ok (by rw [Grid.read_of_inside inside, Attempt.outcome_ofExcept])]
  generalize grid.under centre offset = cell at *
  split
  · rfl
  · rw [amount_eq]
    cases ha : blobAmount offset.distance radius maxFood with
    | error fault => exact Attempt.outcome_bind_of_error (Attempt.outcome_ofExcept _ grid) _
    | ok amount =>
      have positive := one_le_of_blobAmount ha
      have fits : Grid.fits (min maxFood (grid.valueAt cell + amount)) := by
        rw [Grid.fits_iff]
        omega
      rw [Attempt.outcome_bind_of_ok (Attempt.outcome_ofExcept _ grid),
        Attempt.outcome_bind_of_ok (Grid.outcome_store_of_inside inside fits)]
      rfl

/-- One cell of a blob tends the ground and returns the plant mass that it adds. -/
theorem gains_addCell (hw : 0 < grid.width) (hh : 0 < grid.height) (hb : grid.Bounded maxFood)
    (hl : 0 ≤ maxFood) (hu : maxFood ≤ 32767) (centre : Cell) (radius : Int) (offset : Offset) :
    grid.Gains maxFood 0 ((addCell { centre, radius, maxFood } offset).outcome grid) := by
  have inside : grid.Inside (grid.under centre offset) := Grid.inside_wrapped hw hh _
  have bounds := hb _ inside
  rw [outcome_addCell hw hh hb hl hu]
  split
  · exact ⟨.refl grid, fun total h => by simp_all⟩
  · cases ha : blobAmount offset.distance radius maxFood with
    | error fault => exact ⟨.refl grid, fun total h => by simp at h⟩
    | ok amount =>
      have positive := one_le_of_blobAmount ha
      refine ⟨.put inside (by omega) (by omega) (by omega), fun total h => ?_⟩
      have total_eq := Except.ok.inj h
      dsimp only at total_eq ⊢
      rw [Grid.plantMass_put inside]
      omega

/-- The cells of a blob are filled up one after the other. -/
theorem gains_addCells (hw : 0 < grid.width) (hh : 0 < grid.height) (hb : grid.Bounded maxFood)
    (hl : 0 ≤ maxFood) (hu : maxFood ≤ 32767) (centre : Cell) (radius : Int)
    (offsets : List Offset) (added : Int) :
    grid.Gains maxFood added
      ((addCells { centre, radius, maxFood } offsets added).outcome grid) := by
  induction offsets generalizing grid added with
  | nil => exact ⟨.refl grid, fun total h => by simp_all [addCells]⟩
  | cons offset offsets ih =>
    obtain ⟨tended, gain⟩ := gains_addCell hw hh hb hl hu centre radius offset
    rw [addCells, Attempt.outcome_bind]
    rcases hc : (addCell { centre, radius, maxFood } offset).outcome grid with ⟨result, next⟩
    rw [hc] at tended gain
    cases result with
    | error fault => exact ⟨tended, fun total h => by simp at h⟩
    | ok more =>
      obtain ⟨later, rest⟩ := ih (by rw [tended.width]; exact hw) (by rw [tended.height]; exact hh)
        (tended.bounded hb) (added + more)
      refine ⟨tended.trans later, fun total h => ?_⟩
      have first := gain more rfl
      have second := rest total h
      dsimp only at *
      omega

end Blob

/-- A blob tends the ground and returns the plant mass that it adds. -/
theorem gains_addBlob {grid : Grid} {maxFood : Int} (hw : 0 < grid.width) (hh : 0 < grid.height)
    (hb : grid.Bounded maxFood) (hl : 0 ≤ maxFood) (hu : maxFood ≤ 32767) (centre : Cell)
    (radius : Int) : grid.Gains maxFood 0 ((addBlob centre radius maxFood).outcome grid) := by
  rw [addBlob, Attempt.outcome_bind, Attempt.outcome_ofExcept]
  cases blobCells radius with
  | error fault => exact ⟨.refl grid, fun total h => by simp at h⟩
  | ok offsets => exact Blob.gains_addCells hw hh hb hl hu centre radius offsets 0

/-! ## Obstacles -/

namespace Landscape

variable {G : Type} [Source G] {maxFood : Int} {width height : Nat}

/-- Whether the ground of a landscape is bounded and has an extent. -/
def Spans (maxFood : Int) (width height : Nat) (land : Landscape G) : Prop :=
  land.grid.Bounded maxFood ∧ land.grid.width = width ∧ land.grid.height = height

omit [Source G] in
/-- Drawing leaves the ground alone. -/
theorem keeps_draw {α : Type} (attempt : Attempt G α) :
    Attempt.Keeps (Spans maxFood width height) (draw attempt) := by
  intro land h
  rw [draw, Attempt.outcome_onPart]
  exact h

omit [Source G] in
/-- Placing an obstacle leaves the ground bounded. -/
theorem keeps_store_obstacle (h : 0 ≤ maxFood) (cell : Cell) :
    Attempt.Keeps (Spans (G := G) maxFood width height) (onGrid (Grid.store cell obstacle)) := by
  intro land hl
  rw [onGrid, Attempt.outcome_onPart]
  obtain ⟨hw, hh⟩ := Grid.extent_outcome_store cell obstacle land.grid
  exact ⟨hl.1.store (Int.le_refl _) (by simp only [obstacle]; omega) cell, hw.trans hl.2.1,
    hh.trans hl.2.2⟩

/-- Drawing a cell leaves the ground alone. -/
theorem keeps_randomCell :
    Attempt.Keeps (Spans maxFood width height) (randomCell : Attempt (Landscape G) Cell) :=
  Attempt.keeps_get.bind fun _ => (keeps_draw _).bind fun _ => (keeps_draw _).bind fun _ =>
    Attempt.keeps_pure _

/-- Drawing a neighbour leaves the ground alone. -/
theorem keeps_neighbour (cell : Cell) :
    Attempt.Keeps (Spans maxFood width height) (neighbour (G := G) cell) := by
  refine Attempt.keeps_get.bind fun land => (keeps_draw _).bind fun sideways =>
    (keeps_draw _).bind fun step => ?_
  split
  · exact (Attempt.keeps_ofExcept _).bind fun _ => Attempt.keeps_pure _
  · exact (Attempt.keeps_ofExcept _).bind fun _ => Attempt.keeps_pure _

/-- Scattering obstacles leaves the ground bounded. -/
theorem keeps_scatter (h : 0 ≤ maxFood) (count : Nat) (placed : Array Cell) :
    Attempt.Keeps (Spans maxFood width height) (scatter (G := G) count placed) := by
  induction count generalizing placed with
  | zero => exact Attempt.keeps_pure _
  | succ count ih =>
    exact (keeps_randomCell (G := G)).bind fun cell =>
      (keeps_store_obstacle h cell).bind fun _ => ih _

/-- Growing obstacles leaves the ground bounded. -/
theorem keeps_grow (h : 0 ≤ maxFood) (count : Nat) (placed : Array Cell) :
    Attempt.Keeps (Spans maxFood width height) (grow (G := G) count placed) := by
  induction count generalizing placed with
  | zero => exact Attempt.keeps_pure _
  | succ count ih =>
    exact (keeps_draw _).bind fun i => (keeps_neighbour (G := G) _).bind fun cell =>
      (keeps_store_obstacle h cell).bind fun _ => ih _

/-- Placing obstacles leaves the ground bounded. -/
theorem keeps_placeObstacles (h : 0 ≤ maxFood) (density : Int) :
    Attempt.Keeps (Spans maxFood width height) (placeObstacles (G := G) density) := by
  refine Attempt.keeps_get.bind fun land => ?_
  dsimp only
  split
  · exact fun _ hl => hl
  · apply (keeps_scatter h _ _).bind
    intro placed
    split
    · exact Attempt.keeps_pure _
    · exact (keeps_grow h _ _).bind fun _ => Attempt.keeps_get.bind fun _ => Attempt.keeps_pure _

end Landscape

end Vivarium
