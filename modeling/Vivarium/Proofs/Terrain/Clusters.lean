import Mathlib.Combinatorics.SimpleGraph.Connectivity.Connected
import Mathlib.Data.Fintype.Fin
import Mathlib.Logic.Equiv.Fin.Basic
import Mathlib.SetTheory.Cardinal.NatCard
import Vivarium.Proofs.Terrain.Furnishing
import Vivarium.Random.Twister

/-!
# Clusters of obstacles

A torus is a graph: its cells are joined to those next to them. Obstacles that are grown one next to
the other stay connected with those that were scattered first, whatever is drawn, so there are no
more clusters of them than were scattered.
-/

namespace Vivarium

/-! ## Connection -/

/-- A torus as a graph, in which cells next to each other are joined. -/
def torusGraph (width height : Nat) : SimpleGraph Cell :=
  SimpleGraph.fromRel (Beside width height)

/-- The part of a torus that consists of some cells. -/
abbrev regionGraph (width height : Nat) (region : Set Cell) : SimpleGraph region :=
  (torusGraph width height).induce region

/-- Whether every cell of a region is connected within it with one of some seeds. -/
def Clustered (width height : Nat) (seeds : List Cell) (region : Set Cell) : Prop :=
  ∀ cell : region, ∃ seed : region,
    seed.val ∈ seeds ∧ (regionGraph width height region).Reachable seed cell

variable {width height : Nat} {seeds : List Cell}

/-- Seeds are connected with themselves. -/
theorem clustered_seeds (width height : Nat) (seeds : List Cell) :
    Clustered width height seeds {cell | cell ∈ seeds} :=
  fun cell => ⟨cell, cell.property, .refl cell⟩

/-- A region may grow by a cell next to one of its own. -/
theorem Clustered.insert {region : Set Cell} (h : Clustered width height seeds region)
    {old cell : Cell} (ho : old ∈ region) (beside : Beside width height old cell) :
    Clustered width height seeds (Insert.insert cell region) := by
  have known (other : Cell) (hc : other ∈ region) :
      ∃ seed : ↑(Insert.insert cell region), seed.val ∈ seeds ∧
        (regionGraph width height (Insert.insert cell region)).Reachable seed ⟨other, .inr hc⟩ := by
    obtain ⟨seed, hs, path⟩ := h ⟨other, hc⟩
    exact ⟨⟨seed, .inr seed.property⟩, hs,
      path.map ((torusGraph width height).induceHomOfLE (Set.subset_insert cell region)).toHom⟩
  rintro ⟨other, rfl | hc⟩
  · obtain ⟨seed, hs, path⟩ := known old ho
    by_cases same : old = other
    · subst same
      exact ⟨seed, hs, path⟩
    · have step : (regionGraph width height (Insert.insert other region)).Adj
          ⟨old, .inr ho⟩ ⟨other, .inl rfl⟩ :=
        (SimpleGraph.fromRel_adj _ _ _).mpr ⟨same, .inl beside⟩
      exact ⟨seed, hs, path.trans step.reachable⟩
  · exact known other hc

/-- Cells that are grown from connected ones are connected with the same seeds. -/
theorem Grown.clustered {placed cells : List Cell} (h : Grown width height placed cells)
    (hp : Clustered width height seeds {cell | cell ∈ placed}) :
    Clustered width height seeds {cell | cell ∈ placed ++ cells} := by
  induction h with
  | nil => rwa [List.append_nil]
  | @cons placed cells old cell known beside rest ih =>
    have wider : {other | other ∈ placed ++ [cell]} = insert cell {other | other ∈ placed} := by
      ext other
      simp [or_comm]
    rw [List.append_cons]
    apply ih
    rw [wider]
    exact hp.insert known beside

/-- A region that is connected with some seeds of its own falls into no more parts than there are
seeds. -/
theorem Clustered.card_connectedComponent_le {region : Set Cell}
    (h : Clustered width height seeds region) (hs : ∀ seed ∈ seeds, seed ∈ region) :
    Nat.card (regionGraph width height region).ConnectedComponent ≤ seeds.length := by
  let part (i : Fin seeds.length) :=
    (regionGraph width height region).connectedComponentMk ⟨seeds[i], hs _ (List.getElem_mem _)⟩
  have onto : Function.Surjective part := by
    intro component
    induction component using SimpleGraph.ConnectedComponent.ind with
    | h cell =>
      obtain ⟨seed, hm, path⟩ := h cell
      obtain ⟨i, hi, same⟩ := List.getElem_of_mem hm
      refine ⟨⟨i, hi⟩, SimpleGraph.ConnectedComponent.sound ?_⟩
      convert path
      exact same
  simpa using Nat.card_le_card_of_surjective part onto

/-! ## Counting -/

namespace Grid

variable {grid : Grid} {cell : Cell}

/-- The cells that hold an obstacle. -/
def obstacleCells (grid : Grid) : Finset Cell :=
  (Finset.univ.filter fun place : Fin grid.width × Fin grid.height =>
    grid.value place.1 place.2 = obstacle).image fun place => ⟨place.1, place.2⟩

/-- A cell is one of the obstacles if it is inside and holds one. -/
theorem mem_obstacleCells :
    cell ∈ grid.obstacleCells ↔ grid.Inside cell ∧ grid.valueAt cell = obstacle := by
  simp only [obstacleCells, Finset.mem_image, Finset.mem_filter, Finset.mem_univ, true_and,
    Prod.exists]
  constructor
  · rintro ⟨x, y, stone, rfl⟩
    rw [valueAt_natCast]
    exact ⟨inside_natCast grid x y, stone⟩
  · rintro ⟨inside, stone⟩
    obtain ⟨x, y, rfl⟩ := exists_natCast_of_inside inside
    rw [valueAt_natCast] at stone
    exact ⟨x, y, stone, rfl⟩

/-- The obstacles are as many as are counted. -/
theorem card_obstacleCells (grid : Grid) : grid.obstacleCells.card = grid.obstacleCount := by
  have apart : Function.Injective fun place : Fin grid.width × Fin grid.height =>
      (⟨place.1, place.2⟩ : Cell) := by
    rintro ⟨x, y⟩ ⟨x', y'⟩ same
    simp only [Cell.mk.injEq, Nat.cast_inj] at same
    exact Prod.ext (Fin.ext same.1) (Fin.ext same.2)
  let places : Fin grid.width × Fin grid.height ≃ Fin (grid.height * grid.width) :=
    (Equiv.prodComm _ _).trans finProdFinEquiv
  have value_eq (place : Fin grid.width × Fin grid.height) :
      grid.value place.1 place.2 = grid.cells.get (places place) := by
    rw [value]
    congr 2
    simp [Nat.add_comm, Nat.mul_comm]
  let stored : List.Vector Int (grid.height * grid.width) :=
    ⟨grid.cells.toList, grid.cells.length_toList⟩
  calc
    grid.obstacleCells.card =
        (Finset.univ.filter fun place : Fin grid.width × Fin grid.height =>
          grid.value place.1 place.2 = obstacle).card := Finset.card_image_of_injective _ apart
    _ = (Finset.univ.filter fun i => stored.get i = obstacle).card := by
      refine Finset.card_equiv places fun place => ?_
      simp only [Finset.mem_filter, Finset.mem_univ, true_and, value_eq]
      rfl
    _ = grid.cells.toList.count obstacle := Fin.card_filter_univ_eq_vector_get_eq_count _ stored
    _ = grid.obstacleCount := Vector.count_toList

/-- There are no more obstacles than cells. -/
theorem card_obstacleCells_le (grid : Grid) :
    grid.obstacleCells.card ≤ grid.width * grid.height := by
  refine (Finset.card_image_le.trans (Finset.card_filter_le _ _)).trans ?_
  simp

/-- On an empty grid the obstacles are those that are placed. -/
theorem obstacleCells_barred_empty {width height : Nat} {cells : List Cell}
    (h : ∀ cell ∈ cells, (empty width height).Inside cell) :
    ((empty width height).barred cells).obstacleCells = cells.toFinset := by
  ext cell
  rw [mem_obstacleCells, inside_barred, List.mem_toFinset]
  constructor
  · rintro ⟨inside, stone⟩
    by_contra clear
    rw [valueAt_barred h inside, if_neg clear, valueAt_empty inside] at stone
    exact absurd stone (by decide)
  · intro hc
    refine ⟨h cell hc, ?_⟩
    rw [valueAt_barred h (h cell hc), if_pos hc]

/-- On an empty grid there are no more obstacles than are placed, and some if any are placed. -/
theorem card_obstacleCells_barred_empty {width height : Nat} {cells : List Cell}
    (h : ∀ cell ∈ cells, (empty width height).Inside cell) :
    ((empty width height).barred cells).obstacleCells.card ≤ cells.length ∧
      (cells ≠ [] → 0 < ((empty width height).barred cells).obstacleCells.card) := by
  rw [obstacleCells_barred_empty h]
  refine ⟨List.toFinset_card_le cells, fun some => ?_⟩
  rw [Finset.card_pos, List.toFinset_nonempty_iff]
  exact some

end Grid

/-- On an empty grid obstacles that are grown from some seeds are connected with these. -/
theorem Grown.clustered_obstacleCells {grown : List Cell} (h : Grown width height seeds grown)
    (within : ∀ cell ∈ seeds ++ grown, (Grid.empty width height).Inside cell) :
    Clustered width height seeds
      ((Grid.empty width height).barred (seeds ++ grown)).obstacleCells := by
  rw [Grid.obstacleCells_barred_empty within, List.coe_toFinset]
  exact h.clustered (clustered_seeds width height seeds)

/-- On an empty grid obstacles are placed without a fault, and all other cells stay empty. There is
one seed for every so many cells. The number of obstacles is returned, which is positive if there are
seeds, and at most three for each of them. The obstacles are connected with the seeds, so they fall
into no more clusters than there are seeds. -/
theorem obstacles_clustered {G : Type} [Source G] {width height : Nat} (hw : 0 < width)
    (hh : 0 < height) {density : Int} (hd : 1 ≤ density) (rng : G) :
    ∃ (seeds : List Cell) (middle after : Landscape G) (count : Nat),
      (seeds.length : Int) = (width * height : Int) / density ∧
      (Landscape.scatter seeds.length #[]).outcome ⟨Grid.empty width height, rng⟩ =
        (.ok seeds.toArray, middle) ∧
      (Landscape.placeObstacles density).outcome ⟨Grid.empty width height, rng⟩ =
        (.ok count, after) ∧
      (after.grid.width = width ∧ after.grid.height = height) ∧
      (∀ cell, after.grid.Inside cell →
        after.grid.valueAt cell = 0 ∨ after.grid.valueAt cell = obstacle) ∧
      count = after.grid.obstacleCells.card ∧
      (seeds = [] → count = 0) ∧
      (seeds ≠ [] → 1 ≤ count ∧ count ≤ min (3 * seeds.length) (width * height)) ∧
      Clustered width height seeds after.grid.obstacleCells ∧
      Nat.card (regionGraph width height after.grid.obstacleCells).ConnectedComponent ≤
        seeds.length := by
  have wide : 0 < (Grid.empty width height).width := hw
  have high : 0 < (Grid.empty width height).height := hh
  have nonneg : 0 ≤ (width * height : Int) / density :=
    Int.ediv_nonneg (by positivity) (by omega)
  obtain ⟨number, share⟩ := Int.eq_ofNat_of_zero_le nonneg
  have drawn : (((width * height : Nat) : Int).fdiv density).toNat = number := by
    rw [Int.fdiv_eq_ediv_of_nonneg _ (by omega), Nat.cast_mul, share, Int.toNat_natCast]
  obtain ⟨seeds, grown, middle, last, first, placed, ⟨size, length⟩, within, beside⟩ :=
    Landscape.exists_outcome_placeObstacles wide high rng (by omega : density ≠ 0) drawn
  subst size
  change Grown width height seeds grown at beside
  have clustered := beside.clustered_obstacleCells within
  obtain ⟨few, positive⟩ := Grid.card_obstacleCells_barred_empty within
  have fit := Grid.card_obstacleCells_le ((Grid.empty width height).barred (seeds ++ grown))
  rw [List.length_append, length] at few
  rw [Grid.width_barred, Grid.height_barred] at fit
  refine ⟨seeds, _, _, _, share.symm, first, placed, ⟨?_, ?_⟩, fun cell hc => ?_, ?_, ?_, ?_,
    clustered, clustered.card_connectedComponent_le fun seed hs => ?_⟩
  · exact Grid.width_barred _ _
  · exact Grid.height_barred _ _
  · have inside := Grid.inside_barred.mp hc
    dsimp only
    rw [Grid.valueAt_barred within inside]
    split
    · exact .inr rfl
    · exact .inl (Grid.valueAt_empty inside)
  · split
    · rename_i none
      rw [none] at few
      exact (Nat.le_zero.mp few).symm
    · exact (Grid.card_obstacleCells _).symm
  · rintro rfl
    rfl
  · intro some
    rw [if_neg (by simpa using some), ← Grid.card_obstacleCells]
    exact ⟨positive (by simp [some]), le_min (few.trans (by omega)) fit⟩
  · rw [Grid.obstacleCells_barred_empty within, List.coe_toFinset]
    exact List.mem_append_left grown hs

/-- On a small torus with an obstacle for every three cells there are two seeds, and at most two
clusters of obstacles. -/
theorem obstacles_clustered_pair :
    0 < 3 ∧ 0 < 2 ∧ (1 : Int) ≤ 3 ∧
      ∃ (seeds : List Cell) (after : Landscape Generator) (count : Nat),
        seeds.length = 2 ∧
        (Landscape.placeObstacles 3).outcome ⟨Grid.empty 3 2, Generator.ofSeed 7⟩ =
          (.ok count, after) ∧
        (1 ≤ count ∧ count ≤ 6) ∧
        Nat.card (regionGraph 3 2 after.grid.obstacleCells).ConnectedComponent ≤ 2 := by
  have wide : 0 < 3 := by decide
  have high : 0 < 2 := by decide
  have dense : (1 : Int) ≤ 3 := by decide
  obtain ⟨seeds, -, after, count, share, -, placed, -, -, -, -, some, -, parts⟩ :=
    obstacles_clustered wide high dense (Generator.ofSeed 7)
  have two : seeds.length = 2 := by exact_mod_cast share
  have seeded : seeds ≠ [] := by
    rintro rfl
    exact absurd two (by decide)
  rw [two] at some parts
  exact ⟨wide, high, dense, seeds, after, count, two, placed, some seeded, parts⟩

end Vivarium
