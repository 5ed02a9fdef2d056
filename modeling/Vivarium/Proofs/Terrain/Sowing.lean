import Mathlib.Algebra.Order.BigOperators.Group.List
import Vivarium.Proofs.Terrain.Disk
import Vivarium.Proofs.Terrain.Growth

/-!
# Sowing

Some cells of a blob may fall on one and the same cell of a torus. Put on the ground one after the
other, they fill it up to the greatest amount or to the sum of what they bring, whichever is less:
what was cut off at the greatest amount would have been cut off later. So their order does not
matter.
-/

namespace Vivarium

/-- The food that a blob puts at a distance, and none if it cannot be worked out. -/
def portion (radius maxFood : Int) (distance : Nat) : Int :=
  match blobAmount distance radius maxFood with
  | .ok amount => amount
  | .error _ => 0

variable {radius maxFood : Int}

/-- No portion takes food away. -/
theorem portion_nonneg (radius maxFood : Int) (distance : Nat) :
    0 ≤ portion radius maxFood distance := by
  rw [portion]
  split
  · rename_i worked
    exact Int.le_trans (by decide) (one_le_of_blobAmount worked)
  · exact Int.le_refl 0

namespace Grid

/-- The food that offsets from a cell bring to another one: the portions of those that fall on it. -/
def brought (grid : Grid) (centre : Cell) (radius maxFood : Int) (offsets : List Offset)
    (cell : Cell) : Int :=
  ((offsets.filter (grid.under centre · = cell)).map fun offset =>
    portion radius maxFood offset.distance).sum

/-- What sowing offsets from a cell comes to: the extent and the obstacles stay, and every other cell
is filled up by what is brought to it. -/
structure Sown (radius maxFood : Int) (centre : Cell) (offsets : List Offset) (before after : Grid) :
    Prop where
  width : after.width = before.width
  height : after.height = before.height
  obstacles : ∀ cell, before.Inside cell → before.valueAt cell = obstacle →
    after.valueAt cell = obstacle
  filled : ∀ cell, before.Inside cell → before.valueAt cell ≠ obstacle →
    after.valueAt cell =
      min maxFood (before.valueAt cell + before.brought centre radius maxFood offsets cell)

variable {grid before middle after : Grid} {centre cell : Cell} {offsets others : List Offset}

/-- What two lists of offsets bring adds up. -/
theorem brought_append :
    grid.brought centre radius maxFood (offsets ++ others) cell =
      grid.brought centre radius maxFood offsets cell +
        grid.brought centre radius maxFood others cell := by
  rw [brought, List.filter_append, List.map_append, List.sum_append]
  rfl

/-- In what order offsets are listed does not matter to what they bring. -/
theorem brought_perm (h : others.Perm offsets) :
    grid.brought centre radius maxFood others cell =
      grid.brought centre radius maxFood offsets cell :=
  ((h.filter _).map _).sum_eq

/-- No offsets take food away. -/
theorem brought_nonneg : 0 ≤ grid.brought centre radius maxFood offsets cell := by
  apply List.sum_nonneg
  intro amount ha
  obtain ⟨offset, -, rfl⟩ := List.mem_map.mp ha
  exact portion_nonneg radius maxFood offset.distance

/-- An offset that falls on a cell brings its portion there, and maybe others do too. -/
theorem portion_le_brought {offset : Offset} (ho : offset ∈ offsets)
    (falls : grid.under centre offset = cell) :
    portion radius maxFood offset.distance ≤ grid.brought centre radius maxFood offsets cell := by
  apply List.single_le_sum
  · intro amount ha
    obtain ⟨other, -, rfl⟩ := List.mem_map.mp ha
    exact portion_nonneg radius maxFood other.distance
  · exact List.mem_map_of_mem (List.mem_filter.mpr ⟨ho, decide_eq_true falls⟩)

/-- Where no offset falls nothing is brought. -/
theorem brought_eq_zero (h : ∀ offset ∈ offsets, grid.under centre offset ≠ cell) :
    grid.brought centre radius maxFood offsets cell = 0 := by
  have nothing : offsets.filter (grid.under centre · = cell) = [] := by
    simpa [List.filter_eq_nil_iff] using h
  rw [brought, nothing]
  rfl

/-- An offset brings its portion to the cell on which it falls. -/
theorem brought_singleton {offset : Offset} (falls : grid.under centre offset = cell) :
    grid.brought centre radius maxFood [offset] cell = portion radius maxFood offset.distance := by
  simp [brought, falls]

namespace Sown

/-- Without offsets bounded ground is left alone. -/
theorem nil (hb : grid.Bounded maxFood) : grid.Sown radius maxFood centre [] grid where
  width := rfl
  height := rfl
  obstacles _ _ stone := stone
  filled cell hc _ := by
    have bound := (hb cell hc).2
    rw [brought_eq_zero (by simp), add_zero]
    omega

/-- Sown ground brings offsets to the same cells as before. -/
theorem brought_eq (h : before.Sown radius maxFood centre offsets after) :
    after.brought centre radius maxFood others cell =
      before.brought centre radius maxFood others cell := by
  have falls : after.under centre = before.under centre := by
    funext offset
    simp only [under, wrapped, h.width, h.height]
  rw [brought, falls]
  rfl

/-- Offsets that are sown after others are sown together with them. -/
theorem trans (hb : before.Bounded maxFood) (hl : 0 ≤ maxFood)
    (h : before.Sown radius maxFood centre offsets middle)
    (h' : middle.Sown radius maxFood centre others after) :
    before.Sown radius maxFood centre (offsets ++ others) after := by
  have inside {cell : Cell} (hc : before.Inside cell) : middle.Inside cell := by
    simpa only [Inside, h.width, h.height] using hc
  refine ⟨h'.width.trans h.width, h'.height.trans h.height, fun cell hc stone => ?_,
    fun cell hc clear => ?_⟩
  · exact h'.obstacles cell (inside hc) (h.obstacles cell hc stone)
  · have first := h.filled cell hc clear
    have low := (hb cell hc).1
    have gained : 0 ≤ before.brought centre radius maxFood offsets cell := brought_nonneg
    have later : 0 ≤ before.brought centre radius maxFood others cell := brought_nonneg
    have food : middle.valueAt cell ≠ obstacle := by
      simp only [obstacle] at *
      omega
    rw [h'.filled cell (inside hc) food, h.brought_eq, first, brought_append]
    omega

/-- What brings the same to every cell comes to the same. -/
theorem unique {other : Grid} (h : before.Sown radius maxFood centre offsets after)
    (h' : before.Sown radius maxFood centre others other)
    (same : ∀ cell, before.brought centre radius maxFood offsets cell =
      before.brought centre radius maxFood others cell) : after = other := by
  refine ext_valueAt (h.width.trans h'.width.symm) (h.height.trans h'.height.symm) fun cell hc => ?_
  have inside : before.Inside cell := by simpa only [Inside, h.width, h.height] using hc
  by_cases stone : before.valueAt cell = obstacle
  · rw [h.obstacles cell inside stone, h'.obstacles cell inside stone]
  · rw [h.filled cell inside stone, h'.filled cell inside stone, same]

/-- No cell loses food. -/
theorem valueAt_le (h : before.Sown radius maxFood centre offsets after)
    (hb : before.Bounded maxFood) (hc : before.Inside cell) :
    before.valueAt cell ≤ after.valueAt cell := by
  by_cases stone : before.valueAt cell = obstacle
  · rw [h.obstacles cell hc stone, stone]
  · have gained : 0 ≤ before.brought centre radius maxFood offsets cell := brought_nonneg
    have bound := (hb cell hc).2
    rw [h.filled cell hc stone]
    omega

/-- A cell without an obstacle has food if an offset with a portion falls on it. -/
theorem one_le_valueAt (h : before.Sown radius maxFood centre offsets after)
    (hb : before.Bounded maxFood) (hl : 1 ≤ maxFood) (hc : before.Inside cell)
    (clear : before.valueAt cell ≠ obstacle) {offset : Offset} (ho : offset ∈ offsets)
    (falls : before.under centre offset = cell)
    (positive : 1 ≤ portion radius maxFood offset.distance) : 1 ≤ after.valueAt cell := by
  have gained : portion radius maxFood offset.distance ≤
      before.brought centre radius maxFood offsets cell := portion_le_brought ho falls
  have low := (hb cell hc).1
  rw [h.filled cell hc clear]
  simp only [obstacle] at low clear
  omega

/-- A cell on which no offset falls is left alone. -/
theorem valueAt_eq (h : before.Sown radius maxFood centre offsets after)
    (hb : before.Bounded maxFood) (hc : before.Inside cell)
    (away : ∀ offset ∈ offsets, before.under centre offset ≠ cell) :
    after.valueAt cell = before.valueAt cell := by
  by_cases stone : before.valueAt cell = obstacle
  · rw [h.obstacles cell hc stone, stone]
  · have bound := (hb cell hc).2
    rw [h.filled cell hc stone, brought_eq_zero away, add_zero]
    omega

end Sown

end Grid

namespace Blob

variable {grid : Grid}

/-- One cell of a blob is sown without a fault. -/
theorem exists_sown_addCell (hw : 0 < grid.width) (hh : 0 < grid.height) (hb : grid.Bounded maxFood)
    (hl : 0 ≤ maxFood) (hu : maxFood ≤ 32767) (centre : Cell) {offset : Offset}
    (ha : ∃ amount, blobAmount offset.distance radius maxFood = .ok amount) :
    ∃ added after, (addCell { centre, radius, maxFood } offset).outcome grid = (.ok added, after) ∧
      grid.Sown radius maxFood centre [offset] after := by
  obtain ⟨amount, ha⟩ := ha
  have inside : grid.Inside (grid.under centre offset) := Grid.inside_wrapped hw hh _
  rw [outcome_addCell hw hh hb hl hu, ha]
  split
  · rename_i stone
    refine ⟨0, grid, rfl, rfl, rfl, fun _ _ stone => stone, fun cell hc clear => ?_⟩
    have bounds := hb cell hc
    have elsewhere : grid.under centre offset ≠ cell := by
      rintro rfl
      simp only [obstacle] at *
      omega
    rw [Grid.brought_eq_zero (by simpa using elsewhere)]
    omega
  · rename_i food
    refine ⟨_, _, rfl, Grid.width_put _ _ _, Grid.height_put _ _ _, fun cell hc stone => ?_,
      fun cell hc clear => ?_⟩
    · rw [Grid.valueAt_put inside hc, if_neg, stone]
      rintro rfl
      simp only [obstacle] at stone
      omega
    · rw [Grid.valueAt_put inside hc]
      split
      · rename_i same
        rw [Grid.brought_singleton same.symm, portion, ha, same]
      · rename_i apart
        have bound := (hb cell hc).2
        rw [Grid.brought_eq_zero (by simpa using Ne.symm apart)]
        omega

/-- The cells of a blob are sown without a fault. -/
theorem exists_sown_addCells (hw : 0 < grid.width) (hh : 0 < grid.height)
    (hb : grid.Bounded maxFood) (hl : 0 ≤ maxFood) (hu : maxFood ≤ 32767) (centre : Cell)
    {offsets : List Offset}
    (ha : ∀ offset ∈ offsets, ∃ amount, blobAmount offset.distance radius maxFood = .ok amount)
    (added : Int) : ∃ total after,
      (addCells { centre, radius, maxFood } offsets added).outcome grid = (.ok total, after) ∧
        grid.Sown radius maxFood centre offsets after := by
  induction offsets generalizing grid added with
  | nil => exact ⟨added, grid, rfl, .nil hb⟩
  | cons offset offsets ih =>
    rw [List.forall_mem_cons] at ha
    obtain ⟨more, next, outcome, first⟩ := exists_sown_addCell hw hh hb hl hu centre ha.1
    have tended := (gains_addCell hw hh hb hl hu centre radius offset).1
    rw [outcome] at tended
    obtain ⟨total, after, later, rest⟩ := ih (by rw [first.width]; exact hw)
      (by rw [first.height]; exact hh) (tended.bounded hb) ha.2 (added + more)
    refine ⟨total, after, ?_, first.trans hb hl rest⟩
    rw [addCells, Attempt.outcome_bind_of_ok outcome, later]

/-- Sowing offsets in any order comes to the same, and returns the plant mass that it adds. -/
theorem outcome_addCells_of_sown (hw : 0 < grid.width) (hh : 0 < grid.height)
    (hb : grid.Bounded maxFood) (hl : 0 ≤ maxFood) (hu : maxFood ≤ 32767) {centre : Cell}
    {offsets others : List Offset} {after : Grid}
    (ha : ∀ offset ∈ offsets, ∃ amount, blobAmount offset.distance radius maxFood = .ok amount)
    (sown : grid.Sown radius maxFood centre offsets after) (order : others.Perm offsets) :
    (addCells { centre, radius, maxFood } others 0).outcome grid =
      (.ok (after.plantMass - grid.plantMass), after) := by
  obtain ⟨total, other, outcome, reached⟩ := exists_sown_addCells hw hh hb hl hu centre
    (fun offset ho => ha offset (order.mem_iff.mp ho)) 0
  obtain ⟨-, gain⟩ := gains_addCells hw hh hb hl hu centre radius others 0
  obtain rfl : other = after := reached.unique sown fun _ => Grid.brought_perm order
  rw [outcome] at gain ⊢
  have mass := gain total rfl
  dsimp only at mass
  have added : total = other.plantMass - grid.plantMass := by omega
  rw [added]

end Blob

/-- On a torus of any size, a blob is put on bounded ground without a fault. Obstacles stay, and
every other cell is filled up to the greatest amount or to the sum of what the cells of the blob that
fall on it bring, whichever is less. So no cell loses food, cells under the blob have some unless they
are obstacles, and the others are as they were. The cells of the blob can be put there in any order,
and what is returned is the plant mass that was added. -/
theorem blob_closed_form {grid : Grid} (hw : 0 < grid.width) (hh : 0 < grid.height)
    (hb : grid.Bounded maxFood) (hl : 1 ≤ maxFood) (hu : maxFood ≤ 32767) (centre : Cell)
    (hr : 1 ≤ radius) (hr' : radius < 2 ^ 26) :
    ∃ offsets after,
      (blobCells radius = .ok offsets ∧
        ∀ offset ∈ offsets, blobAmount offset.distance radius maxFood =
          .ok (portion radius maxFood offset.distance)) ∧
      (addBlob centre radius maxFood).outcome grid =
        (.ok (after.plantMass - grid.plantMass), after) ∧
      grid.Sown radius maxFood centre offsets after ∧
      (∀ cell, grid.Inside cell → grid.valueAt cell ≤ after.valueAt cell) ∧
      (∀ offset ∈ offsets, grid.valueAt (grid.under centre offset) ≠ obstacle →
        1 ≤ after.valueAt (grid.under centre offset)) ∧
      (∀ cell, grid.Inside cell → (∀ offset ∈ offsets, grid.under centre offset ≠ cell) →
        after.valueAt cell = grid.valueAt cell) ∧
      ∀ others, others.Perm offsets →
        (Blob.addCells { centre, radius, maxFood } others 0).outcome grid =
          (.ok (after.plantMass - grid.plantMass), after) := by
  have nonneg : 0 ≤ maxFood := by omega
  have amounts (offset : Offset) (ho : offset ∈ disk radius) :
      ∃ amount, blobAmount offset.distance radius maxFood = .ok amount :=
    exists_blobAmount hr (by omega) (distance_le_of_mem_disk (by omega) ho) nonneg hu
  have portions (offset : Offset) (ho : offset ∈ disk radius) :
      blobAmount offset.distance radius maxFood =
        .ok (portion radius maxFood offset.distance) := by
    obtain ⟨amount, worked⟩ := amounts offset ho
    rw [portion, worked]
  obtain ⟨-, after, -, sown⟩ := Blob.exists_sown_addCells hw hh hb nonneg hu centre amounts 0
  have orders (others : List Offset) (order : others.Perm (disk radius)) :=
    Blob.outcome_addCells_of_sown hw hh hb nonneg hu amounts sown order
  refine ⟨disk radius, after, ⟨blobCells_eq hr', portions⟩, ?_, sown,
    fun cell hc => sown.valueAt_le hb hc, fun offset ho clear => ?_,
    fun cell hc away => sown.valueAt_eq hb hc away, orders⟩
  · rw [addBlob, blobCells_eq hr', Attempt.outcome_bind_of_ok (Attempt.outcome_ofExcept _ grid)]
    exact orders _ (.refl _)
  · exact sown.one_le_valueAt hb hl (Grid.inside_wrapped hw hh _) clear ho rfl
      (one_le_of_blobAmount (portions offset ho))

/-- A blob wraps onto itself on a small torus and fills it up, but for an obstacle. -/
theorem blob_closed_form_wrapped :
    ((Grid.empty 3 2).put ⟨1, 0⟩ obstacle).Bounded 9 ∧
      ∃ after, (addBlob ⟨7, -3⟩ 4 9).outcome ((Grid.empty 3 2).put ⟨1, 0⟩ obstacle) =
          (.ok 45, after) ∧
        after.valueAt ⟨1, 0⟩ = obstacle ∧ 1 ≤ after.valueAt ⟨1, 1⟩ := by
  have bounded : ((Grid.empty 3 2).put ⟨1, 0⟩ obstacle).Bounded 9 := by
    have stored := (Grid.bounded_empty (by decide : (0 : Int) ≤ 9) 3 2).store
      (Int.le_refl obstacle) (by decide) ⟨1, 0⟩
    rwa [Grid.outcome_store_of_inside ⟨by decide, by decide, by decide, by decide⟩
      (by decide)] at stored
  obtain ⟨offsets, after, ⟨cells, -⟩, outcome, sown, -, covered, -⟩ :=
    blob_closed_form (by decide) (by decide) bounded (by decide) (by decide) ⟨7, -3⟩
      (by decide : (1 : Int) ≤ 4) (by decide)
  refine ⟨bounded, after, ?_, ?_, ?_⟩
  · have total : ((addBlob ⟨7, -3⟩ 4 9).outcome ((Grid.empty 3 2).put ⟨1, 0⟩ obstacle)).1 =
        .ok 45 := by decide +kernel
    rw [outcome] at total ⊢
    rw [Except.ok.inj total]
  · exact sown.obstacles ⟨1, 0⟩ ⟨by decide, by decide, by decide, by decide⟩ (by decide)
  · obtain rfl := Except.ok.inj ((blobCells_eq (by decide)).symm.trans cells)
    exact covered ⟨0, 0, 0⟩ ((mem_disk (by decide)).mpr ⟨by decide, rfl⟩) (by decide)

end Vivarium
