import Vivarium.Proofs.Random.Yields
import Vivarium.Proofs.Terrain.Sowing

/-!
# Furnishing the ground

On ground with an extent, blobs of food whose cells and amounts can be worked out are put on the
ground without a fault, and so are obstacles: these are scattered over cells that are drawn, and then
grown over cells each of which is next to one before it.
-/

namespace Vivarium

/-! ## Blobs -/

/-- Whether the cells of a blob and the food that it puts on them can be worked out. -/
def isSowable (radius maxFood : Int) : Bool :=
  match blobCells radius with
  | .ok offsets => offsets.all fun offset => (blobAmount offset.distance radius maxFood).isOk
  | .error _ => false

/-- The cells and amounts of a blob that can be worked out. -/
theorem exists_of_isSowable {radius maxFood : Int} (h : isSowable radius maxFood) :
    ∃ offsets, blobCells radius = .ok offsets ∧
      ∀ offset ∈ offsets, ∃ amount, blobAmount offset.distance radius maxFood = .ok amount := by
  rw [isSowable] at h
  cases hc : blobCells radius with
  | error fault => simp [hc] at h
  | ok offsets =>
    rw [hc] at h
    refine ⟨offsets, rfl, fun offset ho => ?_⟩
    have worked := List.all_eq_true.mp h offset ho
    cases ha : blobAmount offset.distance radius maxFood with
    | error fault => simp [ha, Except.isOk, Except.toBool] at worked
    | ok amount => exact ⟨amount, rfl⟩

/-- A blob that can be worked out is put on the ground without a fault. -/
theorem exists_addBlob {grid : Grid} {radius maxFood : Int} (hw : 0 < grid.width)
    (hh : 0 < grid.height) (hb : grid.Bounded maxFood) (hl : 0 ≤ maxFood) (hu : maxFood ≤ 32767)
    (centre : Cell) (hs : isSowable radius maxFood) :
    ∃ added after, (addBlob centre radius maxFood).outcome grid = (.ok added, after) := by
  obtain ⟨offsets, cells, amounts⟩ := exists_of_isSowable hs
  rw [addBlob, cells, Attempt.outcome_bind_of_ok (Attempt.outcome_ofExcept _ grid)]
  obtain ⟨added, after, outcome, -⟩ :=
    Blob.exists_sown_addCells hw hh hb hl hu centre amounts 0
  exact ⟨added, after, outcome⟩

/-! ## Obstacles -/

/-- An index below a positive bound is drawn without a fault. -/
theorem Draw.exists_index {G : Type} [Source G] {bound : Nat} (h : 0 < bound) (g : G) :
    ∃ i after, (Draw.index bound).outcome g = (.ok i, after) ∧ i < bound := by
  rw [Draw.index, dif_pos h, Attempt.outcome_bind_of_ok (Attempt.outcome_draw _ g)]
  exact ⟨_, _, rfl, (Draw.below bound h g).1.isLt⟩

/-- Whether a cell lies within an extent. -/
def InExtent (width height : Nat) (cell : Cell) : Prop :=
  0 ≤ cell.x ∧ cell.x < width ∧ 0 ≤ cell.y ∧ cell.y < height

/-- Whether a cell of a torus is next to one, to its left or right or else above or below. -/
def Beside (width height : Nat) (cell other : Cell) : Prop :=
  ∃ step ∈ [(-1 : Int), 1], other = ⟨(cell.x + step) % width, cell.y⟩ ∨
    other = ⟨cell.x, (cell.y + step) % height⟩

/-- Whether cells are reached one after the other, each next to one that was there before it. -/
inductive Grown (width height : Nat) : List Cell → List Cell → Prop
  | nil {placed : List Cell} : Grown width height placed []
  | cons {placed cells : List Cell} {old cell : Cell} (known : old ∈ placed)
    (beside : Beside width height old cell) (rest : Grown width height (placed ++ [cell]) cells) :
    Grown width height placed (cell :: cells)

namespace Grid

/-- The grid with obstacles on some cells. -/
def barred (grid : Grid) (cells : List Cell) : Grid :=
  cells.foldl (fun grid cell => grid.put cell obstacle) grid

@[simp] theorem barred_cons (grid : Grid) (cell : Cell) (cells : List Cell) :
    grid.barred (cell :: cells) = (grid.put cell obstacle).barred cells := rfl

/-- Obstacles that are placed later are placed on top. -/
theorem barred_append (grid : Grid) (cells others : List Cell) :
    grid.barred (cells ++ others) = (grid.barred cells).barred others :=
  List.foldl_append

@[simp] theorem width_barred (grid : Grid) (cells : List Cell) :
    (grid.barred cells).width = grid.width := by
  induction cells generalizing grid with
  | nil => rfl
  | cons cell cells ih => rw [barred_cons, ih, width_put]

@[simp] theorem height_barred (grid : Grid) (cells : List Cell) :
    (grid.barred cells).height = grid.height := by
  induction cells generalizing grid with
  | nil => rfl
  | cons cell cells ih => rw [barred_cons, ih, height_put]

/-- Obstacles move no bound, so the cells inside stay the same. -/
@[simp] theorem inside_barred {grid : Grid} {cells : List Cell} {cell : Cell} :
    (grid.barred cells).Inside cell ↔ grid.Inside cell := by
  simp only [Inside, width_barred, height_barred]

/-- The cells on which obstacles are placed hold these, and the others what they held. -/
theorem valueAt_barred {grid : Grid} {cells : List Cell} (h : ∀ cell ∈ cells, grid.Inside cell)
    {other : Cell} (ho : grid.Inside other) :
    (grid.barred cells).valueAt other = if other ∈ cells then obstacle else grid.valueAt other := by
  induction cells generalizing grid with
  | nil => rfl
  | cons cell cells ih =>
    rw [List.forall_mem_cons] at h
    rw [barred_cons, ih (fun c hc => inside_put.mpr (h.2 c hc)) (inside_put.mpr ho),
      valueAt_put h.1 ho]
    by_cases later : other ∈ cells
    · simp [later]
    · simp [later]

end Grid

namespace Landscape

variable {G : Type} [Source G] {maxFood : Int} {width height : Nat} {grid : Grid}

/-- A random cell of the ground is drawn. -/
theorem exists_outcome_randomCell (hw : 0 < grid.width) (hh : 0 < grid.height) (rng : G) :
    ∃ cell next, randomCell.outcome ⟨grid, rng⟩ = (.ok cell, ⟨grid, next⟩) ∧ grid.Inside cell := by
  obtain ⟨x, second, hx, narrow⟩ := Draw.exists_index hw rng
  obtain ⟨y, third, hy, low⟩ := Draw.exists_index hh second
  refine ⟨⟨x, y⟩, third, ?_, ?_⟩
  · rw [randomCell, Attempt.outcome_bind_of_ok (Attempt.outcome_get _),
      Attempt.outcome_bind_of_ok (by rw [draw, Attempt.outcome_onPart, hx]),
      Attempt.outcome_bind_of_ok (by rw [draw, Attempt.outcome_onPart, hy])]
    rfl
  · simp only [Grid.Inside]
    omega

/-- A random cell within an extent is drawn. -/
theorem succeeds_randomCell (hw : 0 < width) (hh : 0 < height) :
    Attempt.Succeeds (Spans (G := G) maxFood width height) randomCell
      fun cell land => Spans maxFood width height land ∧ InExtent width height cell := by
  intro land h
  obtain ⟨bounded, rfl, rfl⟩ := h
  obtain ⟨cell, next, drawn, inside⟩ := exists_outcome_randomCell hw hh land.rng
  exact ⟨cell, _, drawn, ⟨bounded, rfl, rfl⟩, inside⟩

omit [Source G] in
/-- An obstacle is placed on a cell inside. -/
theorem outcome_store_obstacle {cell : Cell} (h : grid.Inside cell) (rng : G) :
    (onGrid (Grid.store cell obstacle)).outcome ⟨grid, rng⟩ =
      (.ok (), ⟨grid.put cell obstacle, rng⟩) := by
  rw [onGrid, Attempt.outcome_onPart,
    Grid.outcome_store_of_inside h (by decide : Grid.fits obstacle)]

/-- A cell next to a cell inside is drawn, which is inside too. -/
theorem exists_outcome_neighbour {cell : Cell} (h : grid.Inside cell) (rng : G) :
    ∃ near next, (neighbour cell).outcome ⟨grid, rng⟩ = (.ok near, ⟨grid, next⟩) ∧
      grid.Inside near ∧ Beside grid.width grid.height cell near := by
  obtain ⟨left, right, top, bottom⟩ := h
  have wide : 0 < grid.width := by omega
  have high : 0 < grid.height := by omega
  rw [neighbour, Attempt.outcome_bind_of_ok (Attempt.outcome_get _),
    Attempt.outcome_bind_of_ok (by rw [draw, Attempt.outcome_onPart, Attempt.outcome_draw]),
    Attempt.outcome_bind_of_ok (by rw [draw, Attempt.outcome_onPart, Attempt.outcome_draw])]
  dsimp only
  generalize (Draw.coin rng : Bool × G) = toss
  have step := Draw.yields_choose [(-1 : Int), 1] (by decide) toss.2
  generalize (Draw.choose [(-1 : Int), 1] _ toss.2 : Int × G) = drawn at *
  split
  · obtain ⟨wrapped, low, high⟩ := wrapAround_of_pos wide (cell.x + drawn.1)
    rw [wrapped]
    exact ⟨_, _, rfl, ⟨low, high, top, bottom⟩, drawn.1, step, .inl rfl⟩
  · obtain ⟨wrapped, low, high⟩ := wrapAround_of_pos high (cell.y + drawn.1)
    rw [wrapped]
    exact ⟨_, _, rfl, ⟨left, right, low, high⟩, drawn.1, step, .inr rfl⟩

/-- Obstacles are scattered over the ground. -/
theorem exists_outcome_scatter (hw : 0 < grid.width) (hh : 0 < grid.height) (rng : G)
    (count : Nat) (placed : Array Cell) :
    ∃ (cells : List Cell) (next : G),
      (scatter count placed).outcome ⟨grid, rng⟩ =
        (.ok (placed ++ cells), ⟨grid.barred cells, next⟩) ∧
      cells.length = count ∧ ∀ cell ∈ cells, grid.Inside cell := by
  induction count generalizing grid rng placed with
  | zero => exact ⟨[], rng, by simp [scatter, Grid.barred], rfl, by simp⟩
  | succ count ih =>
    obtain ⟨cell, second, drawn, inside⟩ := exists_outcome_randomCell hw hh rng
    have wide : 0 < (grid.put cell obstacle).width := by rwa [Grid.width_put]
    have high : 0 < (grid.put cell obstacle).height := by rwa [Grid.height_put]
    obtain ⟨cells, last, scattered, length, within⟩ := ih wide high second (placed.push cell)
    refine ⟨cell :: cells, last, ?_, by rw [List.length_cons, length], ?_⟩
    · rw [scatter, Attempt.outcome_bind_of_ok drawn,
        Attempt.outcome_bind_of_ok (outcome_store_obstacle inside second), scattered]
      simp
    · simpa [inside] using within

/-- Obstacles are grown next to some on the ground. -/
theorem exists_outcome_grow (rng : G) (count : Nat) {placed : Array Cell}
    (positive : 0 < placed.size) (hp : ∀ cell ∈ placed, grid.Inside cell) :
    ∃ cells next, (grow count placed).outcome ⟨grid, rng⟩ = (.ok (), ⟨grid.barred cells, next⟩) ∧
      cells.length = count ∧ (∀ cell ∈ cells, grid.Inside cell) ∧
      Grown grid.width grid.height placed.toList cells := by
  induction count generalizing grid rng placed with
  | zero => exact ⟨[], rng, rfl, rfl, by simp, .nil⟩
  | succ count ih =>
    obtain ⟨i, second, drawn, below⟩ := Draw.exists_index positive rng
    have known : placed.getD i default ∈ placed := by
      rw [Array.getD, dif_pos below]
      exact Array.getElem_mem below
    obtain ⟨cell, third, found, inside, beside⟩ := exists_outcome_neighbour (hp _ known) second
    have all (other : Cell) (ho : other ∈ placed.push cell) :
        (grid.put cell obstacle).Inside other := by
      rw [Grid.inside_put]
      rcases Array.mem_push.mp ho with old | rfl
      · exact hp other old
      · exact inside
    obtain ⟨cells, last, grown, length, within, rest⟩ :=
      ih third (by rw [Array.size_push]; omega) all
    refine ⟨cell :: cells, last, ?_, by rw [List.length_cons, length], ?_, ?_⟩
    · rw [grow, Attempt.outcome_bind_of_ok (by rw [draw, Attempt.outcome_onPart, drawn]),
        Attempt.outcome_bind_of_ok found,
        Attempt.outcome_bind_of_ok (outcome_store_obstacle inside third), grown]
      rfl
    · simpa [inside] using within
    · rw [Array.toList_push, Grid.width_put, Grid.height_put] at rest
      exact .cons (Array.mem_toList_iff.mpr known) beside rest

/-- On ground with an extent, obstacles are scattered first, one for every so many cells, and then
twice as many are grown next to them. They are counted if there are any. -/
theorem exists_outcome_placeObstacles (hw : 0 < grid.width) (hh : 0 < grid.height) (rng : G)
    {density : Int} (hd : density ≠ 0) {seeds : Nat}
    (hs : (((grid.width * grid.height : Nat) : Int).fdiv density).toNat = seeds) :
    ∃ (scattered grown : List Cell) (middle last : G),
      (scatter seeds #[]).outcome ⟨grid, rng⟩ =
        (.ok scattered.toArray, ⟨grid.barred scattered, middle⟩) ∧
      (placeObstacles density).outcome ⟨grid, rng⟩ =
        (.ok (if seeds = 0 then 0 else (grid.barred (scattered ++ grown)).obstacleCount),
          ⟨grid.barred (scattered ++ grown), last⟩) ∧
      (scattered.length = seeds ∧ grown.length = seeds * 2) ∧
      (∀ cell ∈ scattered ++ grown, grid.Inside cell) ∧
      Grown grid.width grid.height scattered grown := by
  obtain ⟨scattered, middle, first, size, within⟩ := exists_outcome_scatter hw hh rng seeds #[]
  have first' : (scatter seeds #[]).outcome ⟨grid, rng⟩ =
      (.ok scattered.toArray, ⟨grid.barred scattered, middle⟩) := by simpa using first
  rw [placeObstacles, Attempt.outcome_bind_of_ok (Attempt.outcome_get _)]
  dsimp only
  rw [if_neg hd, hs, Attempt.outcome_bind_of_ok first']
  by_cases nothing : seeds = 0
  · obtain rfl : scattered = [] := List.length_eq_zero_iff.mp (size.trans nothing)
    refine ⟨[], [], middle, middle, first', ?_, ⟨size, by simp [nothing]⟩, by simp, .nil⟩
    rw [if_pos nothing]
    rfl
  · have positive : 0 < scattered.toArray.size := by
      rw [List.size_toArray]
      omega
    have all (cell : Cell) (hc : cell ∈ scattered.toArray) :
        (grid.barred scattered).Inside cell :=
      Grid.inside_barred.mpr (within cell (List.mem_toArray.mp hc))
    obtain ⟨grown, last, second, length, within', beside⟩ :=
      exists_outcome_grow middle (seeds * 2) positive all
    refine ⟨scattered, grown, middle, last, first', ?_, ⟨size, length⟩, ?_, ?_⟩
    · rw [if_neg (by simpa [Array.isEmpty, Nat.pos_iff_ne_zero] using positive), if_neg nothing,
        Attempt.outcome_bind_of_ok second, Grid.barred_append]
      rfl
    · rw [List.forall_mem_append]
      exact ⟨within, fun cell hc => Grid.inside_barred.mp (within' cell hc)⟩
    · simpa using beside

/-- Obstacles are placed on ground with an extent. -/
theorem succeeds_placeObstacles (hw : 0 < width) (hh : 0 < height) (hl : 0 ≤ maxFood)
    {density : Int} (hd : density ≠ 0) :
    Attempt.Succeeds (Spans (G := G) maxFood width height) (placeObstacles density)
      fun _ => Spans maxFood width height := by
  intro land h
  have kept := keeps_placeObstacles hl density land h
  obtain ⟨-, rfl, rfl⟩ := h
  obtain ⟨_, _, _, _, -, placed, -⟩ := exists_outcome_placeObstacles hw hh land.rng hd rfl
  rw [placed] at kept
  exact ⟨_, _, placed, kept⟩

end Landscape

end Vivarium
