import Vivarium.Proofs.Terrain.Clearing
import Vivarium.Proofs.World.Endurance

/-!
# Population

Animals stand on different clear cells, so the free cells and the animals of the list together are
as many as the clear cells. A spawn turns a free cell into an animal, and one spawn after the other
makes as many animals as are asked for or as the ground has room for, whichever comes first.
-/

namespace Vivarium.World

variable {G : Type} {world : World G} {cell : Cell}

/-! ## Free cells -/

/-- No cell is listed twice among the free ones. -/
theorem nodup_freeCells (world : World G) : world.freeCells.Nodup := by
  have names : world.freeCells.Sublist (world.grid.contents.map Prod.fst) := by
    rw [freeCells]
    induction world.grid.contents with
    | nil => exact .slnil
    | cons content contents ih =>
      obtain ⟨place, value⟩ := content
      rw [List.filterMap_cons, List.map_cons]
      by_cases free : 0 ≤ value && !world.occupied.contains place
      · simp only [if_pos free]
        exact ih.cons_cons place
      · simp only [if_neg free]
        exact ih.cons place
  exact names.nodup world.grid.nodup_contents

/-- The free cells are the cells inside that turn out free. -/
theorem mem_freeCells_iff_outcome_isFree :
    cell ∈ world.freeCells ↔
      world.grid.Inside cell ∧ (isFree cell).outcome world = (.ok true, world) := by
  rw [mem_freeCells_iff]
  refine and_congr_right fun inside => ?_
  rw [outcome_isFree_of_inside inside, Prod.mk.injEq, Except.ok.injEq]
  exact (and_iff_left rfl).symm

/-! ## Room -/

/-- Where an animal is. -/
def whereabouts (world : World G) (id : Nat) : Cell :=
  ((world.roster[id]?).map Animal.cell).getD default

/-- The cells on which there are animals are those where the animals of the list are. -/
theorem Occupancy.contains_iff {ids : List Nat} (h : Occupancy ids world) :
    world.occupied.contains cell ↔ ∃ id ∈ ids, world.whereabouts id = cell := by
  rw [Std.ExtTreeMap.contains_eq_isSome_getElem?, Option.isSome_iff_exists]
  refine exists_congr fun id => ?_
  rw [h.map]
  refine and_congr_right fun hid => ?_
  obtain ⟨animal, found, -⟩ := h.known id hid
  simp [whereabouts, found]

/-- Every animal of the list is somewhere else. -/
theorem Occupancy.injOn_whereabouts {ids : List Nat} (h : Occupancy ids world) :
    Set.InjOn world.whereabouts (ids.toFinset : Set Nat) := by
  intro id hid other ho same
  rw [Finset.mem_coe, List.mem_toFinset] at hid ho
  obtain ⟨animal, ha, -⟩ := h.known id hid
  obtain ⟨neighbour, hn, -⟩ := h.known other ho
  refine h.eq_of_cell_eq hid ho ha hn ?_
  simpa [whereabouts, ha, hn] using same

/-- The free cells are the clear cells without an animal. -/
theorem Occupied.toFinset_freeCells (h : Occupied world) :
    world.freeCells.toFinset =
      world.grid.clearCells.filter fun cell => ¬ world.occupied.contains cell := by
  ext cell
  rw [List.mem_toFinset, mem_freeCells_iff, Finset.mem_filter, h.bounded.mem_clearCells, isOpen,
    Bool.and_eq_true, decide_eq_true_eq, Bool.not_eq_true', Bool.not_eq_true, and_assoc]

/-- The cells where animals of the list are, are the clear cells with an animal. -/
theorem Occupied.image_whereabouts (h : Occupied world) :
    world.animals.toFinset.image world.whereabouts =
      world.grid.clearCells.filter fun cell => world.occupied.contains cell := by
  ext cell
  simp only [Finset.mem_image, List.mem_toFinset, Finset.mem_filter, h.contains_iff]
  refine ⟨?_, And.right⟩
  rintro ⟨id, hid, rfl⟩
  obtain ⟨animal, found, -, inside, food⟩ := h.known id hid
  refine ⟨?_, id, hid, rfl⟩
  rw [h.bounded.mem_clearCells]
  simpa [whereabouts, found] using And.intro inside food

/-- The free cells and the animals of the list are as many as the clear cells. -/
theorem Occupied.length_freeCells_add (h : Occupied world) :
    world.freeCells.length + world.animals.length = world.grid.clearCells.card := by
  calc
    world.freeCells.length + world.animals.length
      = world.freeCells.toFinset.card + (world.animals.toFinset.image world.whereabouts).card := by
      rw [List.toFinset_card_of_nodup world.nodup_freeCells,
        Finset.card_image_of_injOn h.injOn_whereabouts, List.toFinset_card_of_nodup h.nodup]
    _ = world.grid.clearCells.card := by
      rw [h.toFinset_freeCells, h.image_whereabouts, Nat.add_comm,
        Finset.card_filter_add_card_filter_not]

/-- If no cell is free, there is an animal on every clear cell. -/
theorem Occupied.contains_of_full (h : Occupied world) (full : world.freeCells = [])
    (clear : cell ∈ world.grid.clearCells) : world.occupied.contains cell := by
  by_contra free
  have member : cell ∈ world.freeCells.toFinset := by
    rw [h.toFinset_freeCells, Finset.mem_filter]
    exact ⟨clear, free⟩
  rw [full] at member
  contradiction

/-! ## Spawning -/

variable [Source G] {after : World G}

/-- A spawn finds nothing just if no cell is free. -/
theorem outcome_spawn_eq_none_iff :
    (spawn.outcome world).1 = .ok none ↔ world.freeCells = [] := by
  rcases exists_outcome_spawn world with ⟨none, full⟩ | ⟨newcomer, rng, born, known⟩
  · simp [full, none]
  · rw [born]
    simp [List.ne_nil_of_mem known.free]

/-- If no cell is free, a spawn changes nothing. -/
theorem outcome_spawn_of_full (full : world.freeCells = []) :
    spawn.outcome world = (.ok none, world) := by
  rcases exists_outcome_spawn world with ⟨-, outcome⟩ | ⟨_, _, _, known⟩
  · exact outcome
  · exact absurd full (List.ne_nil_of_mem known.free)

omit [Source G] in
/-- So many animals have joined the list, on the same ground. -/
structure Joined (world : World G) (count : Nat) (after : World G) : Prop where
  grid : after.grid = world.grid
  settings : after.settings = world.settings
  length : after.animals.length = world.animals.length + count
  occupied : Occupied after

omit [Source G] in
/-- Every animal that joins takes a free cell. -/
theorem Joined.length_freeCells {count : Nat} (h : Joined world count after)
    (occupied : Occupied world) : after.freeCells.length + count = world.freeCells.length := by
  have before := occupied.length_freeCells_add
  have now := h.occupied.length_freeCells_add
  rw [h.grid, h.length] at now
  omega

/-- If a cell is free, a spawn makes one animal join the list. -/
theorem exists_joined_spawn (h : Occupied world) (free : world.freeCells ≠ []) :
    ∃ id after, spawn.outcome world = (.ok (some id), after) ∧ Joined world 1 after := by
  have occupied := keeps_occupied_spawn world h
  rcases exists_outcome_spawn world with ⟨none, -⟩ | ⟨newcomer, rng, born, -⟩
  · exact absurd none free
  · rw [born] at occupied
    exact ⟨_, _, born, rfl, rfl, List.length_append, occupied⟩

omit [Source G] in
/-- Nobody joins a world that is left alone, whatever is written into its journal. -/
theorem Occupied.joined_zero (h : Occupied world) (journal : Array Entry) :
    Joined world 0 { world with journal } :=
  ⟨rfl, rfl, rfl, h.congr rfl rfl rfl rfl⟩

omit [Source G] in
/-- Those who join later join those who joined before. -/
theorem Joined.trans {middle : World G} {first second : Nat} (h : Joined world first middle)
    (h' : Joined middle second after) : Joined world (first + second) after where
  grid := h'.grid.trans h.grid
  settings := h'.settings.trans h.settings
  length := by rw [h'.length, h.length, Nat.add_assoc]
  occupied := h'.occupied

omit [Source G] in
/-- If one animal joins, and then as many as are asked for or as there are free cells, then so many
and one more have joined in all. -/
theorem Joined.succ {middle : World G} {count : Nat} (h : Joined world 1 middle)
    (occupied : Occupied world) (h' : Joined middle (min count middle.freeCells.length) after) :
    min (count + 1) world.freeCells.length = min count middle.freeCells.length + 1 ∧
      Joined world (min (count + 1) world.freeCells.length) after := by
  have room := h.length_freeCells occupied
  have total : min (count + 1) world.freeCells.length =
      min count middle.freeCells.length + 1 := by omega
  refine ⟨total, ?_⟩
  rw [total, Nat.add_comm]
  exact h.trans h'

/-- Spawning up to a number makes that many animals join, or as many as there are free cells. -/
theorem exists_joined_spawnUpTo (h : Occupied world) (count : Nat) :
    ∃ after, (spawnUpTo count).outcome world =
        (.ok (min count world.freeCells.length), after) ∧
      Joined world (min count world.freeCells.length) after := by
  induction count generalizing world with
  | zero =>
    rw [Nat.zero_min]
    exact ⟨world, rfl, h.joined_zero world.journal⟩
  | succ count ih =>
    rw [spawnUpTo]
    by_cases full : world.freeCells = []
    · rw [full, List.length_nil, Nat.min_zero, Attempt.outcome_bind_of_ok
        (outcome_spawn_of_full full)]
      exact ⟨world, rfl, h.joined_zero world.journal⟩
    · obtain ⟨id, middle, born, first⟩ := exists_joined_spawn h full
      obtain ⟨after, more, rest⟩ := ih first.occupied
      obtain ⟨total, joined⟩ := first.succ h rest
      refine ⟨after, ?_, joined⟩
      rw [Attempt.outcome_bind_of_ok born, Attempt.outcome_bind_of_ok more, total]
      rfl

/-- Populating a world makes so many animals join, or as many as there are free cells. -/
theorem exists_joined_populate (h : Occupied world) (count : Nat) :
    ∃ after, (populate count).outcome world = (.ok (), after) ∧
      Joined world (min count world.freeCells.length) after := by
  induction count generalizing world with
  | zero =>
    rw [Nat.zero_min]
    exact ⟨world, rfl, h.joined_zero world.journal⟩
  | succ count ih =>
    rw [populate]
    by_cases full : world.freeCells = []
    · rw [full, List.length_nil, Nat.min_zero, Attempt.outcome_bind_of_ok
        (outcome_spawn_of_full full)]
      exact ⟨_, rfl, h.joined_zero _⟩
    · obtain ⟨id, middle, born, first⟩ := exists_joined_spawn h full
      obtain ⟨after, more, rest⟩ := ih first.occupied
      rw [Attempt.outcome_bind_of_ok born]
      exact ⟨after, more, (first.succ h rest).2⟩

/-! ## The floor -/

/-- The population is filled up to its minimum, or to the number of clear cells if there are not
enough of them. -/
theorem exists_outcome_fillPopulation_of_occupied (h : Occupied world) :
    ∃ spawned after, fillPopulation.outcome world = (.ok spawned, after) ∧
      Joined world spawned after ∧
      (after.animals.length : Int) =
        max (world.animals.length : Int)
          (min world.settings.minPopulation (world.grid.clearCells.card : Int)) := by
  obtain ⟨after, outcome, joined⟩ := exists_joined_spawnUpTo h
    (world.settings.minPopulation - world.animals.length).toNat
  refine ⟨_, after, ?_, joined, ?_⟩
  · rw [fillPopulation, Attempt.outcome_bind_of_ok (Attempt.outcome_get world), outcome]
  · have room := h.length_freeCells_add
    rw [joined.length, ← room]
    push_cast
    omega

/-- Filling up the population is the loop that spawns one animal after the other while there are
fewer than the minimum and a spawn finds a free cell. -/
theorem fillPopulation_eq : (fillPopulation : Sim G Nat) = (do
    let world : World G ← get
    if world.animals.length < world.settings.minPopulation then
      match ← spawn with
      | none => return 0
      | some _ => return (← fillPopulation) + 1
    else return 0) := by
  apply Attempt.ext_outcome
  intro world
  have unfolds (world : World G) : (fillPopulation : Sim G Nat).outcome world =
      (spawnUpTo (world.settings.minPopulation - world.animals.length).toNat).outcome world := by
    rw [fillPopulation, Attempt.outcome_bind_of_ok (Attempt.outcome_get world)]
  rw [unfolds, Attempt.outcome_bind_of_ok (Attempt.outcome_get world)]
  by_cases few : world.animals.length < world.settings.minPopulation
  · obtain ⟨count, hc⟩ : ∃ count : Nat,
        (world.settings.minPopulation - world.animals.length).toNat = count + 1 :=
      ⟨(world.settings.minPopulation - world.animals.length).toNat - 1, by omega⟩
    -- A spawn leaves one animal fewer missing, so the loop goes on as `spawnUpTo count` does.
    rw [if_pos few, hc, spawnUpTo]
    rcases exists_outcome_spawn world with ⟨-, outcome⟩ | ⟨newcomer, rng, born, -⟩
    · rw [Attempt.outcome_bind_of_ok outcome, Attempt.outcome_bind_of_ok outcome]
    · have rest : (((world.reseeded rng).settled newcomer).settings.minPopulation -
          ((world.reseeded rng).settled newcomer).animals.length).toNat = count := by
        change (world.settings.minPopulation - (world.animals ++ [_]).length).toNat = count
        rw [List.length_append, List.length_singleton]
        omega
      have more := unfolds ((world.reseeded rng).settled newcomer)
      rw [rest] at more
      rw [Attempt.outcome_bind_of_ok born, Attempt.outcome_bind_of_ok born]
      dsimp only
      rw [Attempt.outcome_bind, Attempt.outcome_bind, more]
  · rw [if_neg few, show (world.settings.minPopulation - world.animals.length).toNat = 0 by omega]
    rfl

/-! ## Ticks -/

/-- A tick up to the removal of the dead. Return their number. -/
def untilRemoved : Sim G Nat := do
  let (ids, _) ← beginTick
  turns ids
  removeDead

/-- A step goes on from the removal of the dead by filling up the population. -/
theorem step_eq_untilRemoved : (step : Sim G Unit) = (do
    let removed ← untilRemoved
    modify fun world => { world with deaths := world.deaths + removed }
    let spawned ← fillPopulation
    reportTick removed spawned) := by
  rw [step_eq]
  simp only [ledger, endTick, untilRemoved, bind_assoc, pure_bind, bind_pure_unit]

/-- At the removal of the dead the world is occupied, and its ground was tended. -/
theorem tendedSince_untilRemoved {removed : Nat} (h : Occupied world)
    (hr : untilRemoved.outcome world = (.ok removed, after)) : TendedSince world after := by
  obtain ⟨begun, start, hb, hr⟩ := Attempt.outcome_bind_eq_ok_iff.mp hr
  obtain ⟨_, turned, ht, hr⟩ := Attempt.outcome_bind_eq_ok_iff.mp hr
  obtain ⟨begins, known⟩ := advances_beginTick h
  obtain ⟨ids, animals⟩ := known begun start hb
  -- Each stage tends the ground and leaves the occupancy that the next stage starts from.
  have first := begins.tends h
  rw [hb] at first
  have started := begins.occupancy_of_eq h hb
  have listed : begun.1 ⊆ start.animals := by
    rw [ids, animals]
    exact List.Subset.refl _
  have visits := advances_turns started listed
  have second := visits.tends started
  rw [ht] at second
  have lasted := visits.occupancy_of_eq started ht
  have third := tends_removeDead lasted
  obtain ⟨_, _, outcome, runs, -⟩ := exists_outcome_removeDead lasted
  rw [hr] at third outcome
  cases outcome
  exact ⟨runs.occupancy lasted, (first.trans second).trans third⟩

/-- If a tick gets as far as the removal of the dead, it comes to its end, and the population that
is left is filled up to its minimum or to the number of clear cells. It falls short of the minimum
only if there is an animal on every clear cell. -/
theorem exists_outcome_step_of_untilRemoved {removed : Nat} {middle : World G} (h : Occupied world)
    (hr : untilRemoved.outcome world = (.ok removed, middle)) :
    ∃ after, step.outcome world = (.ok (), after) ∧
      after.grid.clearCells = world.grid.clearCells ∧
      (after.animals.length : Int) =
        max (middle.animals.length : Int)
          (min world.settings.minPopulation (world.grid.clearCells.card : Int)) ∧
      (after.animals.length < world.settings.minPopulation →
        ∀ cell ∈ after.grid.clearCells, after.occupied.contains cell) := by
  obtain ⟨occupied, tends⟩ := tendedSince_untilRemoved h hr
  have cells := tends.ground.clearCells_eq
  have start : Occupied { middle with deaths := middle.deaths + removed } :=
    occupied.congr rfl rfl rfl rfl
  obtain ⟨spawned, last, filled, joined, population⟩ :=
    exists_outcome_fillPopulation_of_occupied start
  obtain ⟨journal, reported⟩ := exists_outcome_reportTick removed spawned last
  dsimp only at population
  rw [cells, tends.settings] at population
  have same : last.grid.clearCells = world.grid.clearCells := by
    rw [joined.grid]
    exact cells
  refine ⟨{ last with journal }, ?_, same, population, fun short cell clear => ?_⟩
  · rw [step_eq_untilRemoved, Attempt.outcome_bind_of_ok hr,
      Attempt.outcome_bind_of_ok (Attempt.outcome_modify _ middle),
      Attempt.outcome_bind_of_ok filled, reported]
  · have room := joined.occupied.length_freeCells_add
    rw [same] at room
    have full : last.freeCells = [] := by
      rw [← List.length_eq_zero_iff]
      dsimp only at short
      omega
    exact joined.occupied.contains_of_full full clear

/-! ## Creation -/

omit [Source G] in
/-- A world without animals has as many free cells as clear cells. -/
theorem Occupied.length_freeCells_of_nobody (h : Occupied world) (nobody : world.animals = []) :
    world.freeCells.length = world.grid.clearCells.card := by
  have room := h.length_freeCells_add
  rwa [nobody, List.length_nil, Nat.add_zero] at room

/-- Blobs leave a world without animals without them. -/
theorem keeps_nobody_addRandomBlobs (count : Nat) :
    Attempt.Keeps (fun world : World G => Occupied world ∧ world.animals = [])
      (addRandomBlobs count) := by
  induction count with
  | zero => exact Attempt.keeps_pure _
  | succ count ih =>
    refine Attempt.Keeps.bind (fun world h => ?_) fun _ => ih
    obtain ⟨result, rng, grid, outcome, -⟩ := exists_outcome_addRandomBlob h.1
    have occupied := keeps_occupied_addRandomBlob world h.1
    rw [outcome] at occupied ⊢
    exact ⟨occupied, h.2⟩

/-- A furnished world has as many animals as were asked for, or as many as there are clear cells. -/
theorem population_of_furnish {seed : Option Int} {population : Int} (h : Occupied world)
    (nobody : world.animals = []) (map : world.occupied = ∅)
    (hf : (furnish seed population).outcome world = (.ok (), after)) :
    after.animals.length = min population.toNat after.grid.clearCells.card := by
  have rugged := occupied_rugged h nobody map
  obtain ⟨obstacles, start, placed, hf⟩ := Attempt.outcome_bind_eq_ok_iff.mp hf
  rw [World.rugged, placed] at rugged
  have empty : start.animals = [] := by
    rw [onLandscape, Attempt.outcome_onPart, Prod.mk.injEq] at placed
    rw [← placed.2]
    exact nobody
  obtain ⟨_, _, hg, hf⟩ := Attempt.outcome_bind_eq_ok_iff.mp hf
  cases hg
  obtain ⟨_, fed, sown, hf⟩ := Attempt.outcome_bind_eq_ok_iff.mp hf
  have feeds := keeps_nobody_addRandomBlobs start.grid.width start ⟨rugged, empty⟩
  rw [sown] at feeds
  obtain ⟨occupied, still⟩ := feeds
  obtain ⟨full, fills, joined⟩ := exists_joined_populate occupied population.toNat
  rw [Attempt.outcome_bind_of_ok fills] at hf
  cases hf
  rw [joined.length, joined.grid, still, occupied.length_freeCells_of_nobody still]
  exact Nat.zero_add _

/-- Populations have a floor. The free cells are the cells inside that turn out free, each listed
once; a spawn finds none just if there is none, and then leaves the world alone. A step that gets as
far as the removal of the dead spawns while there are fewer animals than the minimum and a cell is
free, and ends with the minimum, or with all who were left if they are more, or with an animal on
every clear cell. A created world has the animals that were asked for, or one on every clear cell,
and it is what anyone gets who asks for an extent that can be had. -/
theorem population_floored (h : Reachable Habitable world) :
    (world.freeCells.Nodup ∧ ∀ cell, cell ∈ world.freeCells ↔
      world.grid.Inside cell ∧ (isFree cell).outcome world = (.ok true, world)) ∧
    ((spawn.outcome world).1 = .ok none ↔ world.freeCells = []) ∧
    (world.freeCells = [] → spawn.outcome world = (.ok none, world)) ∧
    ((step : Sim G Unit) = do
      let removed ← untilRemoved
      modify fun world => { world with deaths := world.deaths + removed }
      let spawned ← fillPopulation
      reportTick removed spawned) ∧
    ((fillPopulation : Sim G Nat) = do
      let world : World G ← get
      if world.animals.length < world.settings.minPopulation then
        match ← spawn with
        | none => return 0
        | some _ => return (← fillPopulation) + 1
      else return 0) ∧
    (∀ removed middle, untilRemoved.outcome world = (.ok removed, middle) →
      ∃ after, step.outcome world = (.ok (), after) ∧
        after.grid.clearCells = world.grid.clearCells ∧
        (after.animals.length : Int) =
          max (middle.animals.length : Int)
            (min world.settings.minPopulation (world.grid.clearCells.card : Int)) ∧
        (after.animals.length < world.settings.minPopulation →
          ∀ cell ∈ after.grid.clearCells, after.occupied.contains cell)) ∧
    ∀ (width height : Int) (seed : Option Int) (rng : G) (population : Int) (settings : Settings),
      1 ≤ width → 1 ≤ height → 0 ≤ population →
      settings.blobRadius = ({} : Settings).blobRadius →
      settings.maxFood = ({} : Settings).maxFood →
      ∃ created, create width height seed rng population settings = .ok created ∧
        (Grid.checkExtent width height = .ok () →
          requestFurnished width height seed rng population settings = .ok created) ∧
        (created.animals.length : Int) = min population (created.grid.clearCells.card : Int) := by
  have occupied := occupied_of_reachable h
  refine ⟨⟨world.nodup_freeCells, fun _ => mem_freeCells_iff_outcome_isFree⟩,
    outcome_spawn_eq_none_iff, outcome_spawn_of_full, step_eq_untilRemoved, fillPopulation_eq,
    fun _ _ hr => exists_outcome_step_of_untilRemoved occupied hr, ?_⟩
  intro width height seed rng population settings hw hh hp hr hf
  obtain ⟨created, hc, -⟩ := exists_create hw hh seed rng population hr hf
  refine ⟨created, hc, fun extent => ?_, ?_⟩
  · rw [requestFurnished_of_checkExtent extent, hc]
  · obtain ⟨start, he, furnished⟩ := create_eq_ok_iff.mp hc
    have habitable : Habitable width height settings :=
      ⟨hw, hh, hf ▸ (by decide), hf ▸ (by decide)⟩
    have ground := occupied_of_empty habitable he
    obtain ⟨-, -, rfl⟩ := empty_eq_ok_iff.mp he
    rw [population_of_furnish ground rfl rfl furnished]
    omega

/-- A small world is created with seven animals asked for on six cells. -/
theorem population_floored_glade :
    ∃ world created : World Generator, Glade world ∧ Reachable Habitable world ∧
      requestFurnished 3 2 (some 7) (Generator.ofSeed 7) 7 {} = .ok created ∧
      (created.animals.length : Int) = min 7 (created.grid.clearCells.card : Int) := by
  obtain ⟨world, glade, reachable⟩ := exists_glade (habitable_default (by decide) (by decide))
  obtain ⟨-, -, -, -, -, -, creates⟩ := population_floored reachable
  obtain ⟨created, -, requested, population⟩ :=
    creates 3 2 (some 7) (Generator.ofSeed 7) 7 {} (by decide) (by decide) (by decide) rfl rfl
  exact ⟨world, created, glade, reachable, requested (by decide), population⟩

end Vivarium.World
