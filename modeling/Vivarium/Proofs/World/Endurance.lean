import Vivarium.Proofs.World.Health
import Vivarium.Proofs.World.Tending

/-!
# Endurance

A created world goes on for as many ticks as one likes, as long as the energy of its animals can be
split in the range of doubles: nothing fails in its creation, in any step, or in any turn. The
energy of an animal grows by one bite per tick at most, so there is room for two to the power of a
thousand ticks. Memory, the depth of recursions and the journal are taken to be without a limit, as
everywhere.
-/

namespace Vivarium.World

variable {G : Type} [Source G] {tick : Nat} {most : Nat → Int} {base : Int} {world : World G}

/-! ## The parts of a tick -/

/-- A spawn does not fail, and leaves a thriving world. -/
theorem succeeds_spawn (room : ∀ id, startEnergy ≤ most id) :
    Attempt.Succeeds (Thrives (G := G) tick most) spawn fun _ => Thrives tick most := by
  intro world h
  have occupied := keeps_occupied_spawn world h.occupied
  rcases exists_outcome_spawn world with ⟨-, full⟩ | ⟨newcomer, rng, born, known⟩
  · exact ⟨none, world, full, h⟩
  · rw [born] at occupied
    refine ⟨some world.roster.size, _, born, h.next occupied rfl rfl (h.allHale.push ?_)⟩
    obtain ⟨before, after, drawn⟩ := known.body
    obtain ⟨body, last, outcome, square, -⟩ := exists_generateBody generationAttempts before
    rw [drawn, Prod.mk.injEq, Except.ok.injEq] at outcome
    refine ⟨outcome.1 ▸ square, ?_, ?_, ?_⟩
    · rw [known.program]
      exact evolved_herbivore
    · rw [known.execution]
      exact trivial
    · rw [known.energy]
      exact room _

/-- Filling the population up does not fail, and leaves a thriving world. -/
theorem succeeds_fillPopulation (room : ∀ id, startEnergy ≤ most id) :
    Attempt.Succeeds (Thrives (G := G) tick most) fillPopulation fun _ => Thrives tick most := by
  have upTo (count : Nat) :
      Attempt.Succeeds (Thrives (G := G) tick most) (spawnUpTo count) fun _ =>
        Thrives tick most := by
    induction count with
    | zero => exact Attempt.succeeds_pure fun _ h => h
    | succ count ih =>
      apply (succeeds_spawn room).bind
      intro spawned
      cases spawned with
      | none => exact Attempt.succeeds_pure fun _ h => h
      | some _ => exact ih.bind fun _ => Attempt.succeeds_pure fun _ h => h
  intro world h
  rw [fillPopulation, Attempt.outcome_bind_of_ok (Attempt.outcome_get world)]
  exact upTo _ world h

/-- A random blob does not fail, and leaves a thriving world. -/
theorem succeeds_addRandomBlob :
    Attempt.Succeeds (Thrives (G := G) tick most) addRandomBlob fun _ => Thrives tick most := by
  intro world h
  have ground := h.occupied
  have falls : ∃ added after, addRandomBlob.outcome world = (.ok added, after) := by
    obtain ⟨centre, land, drawn, ⟨bounded, width, height⟩, -⟩ :=
      Landscape.succeeds_randomCell ground.width_pos ground.height_pos world.toLandscape
        ⟨ground.bounded, rfl, rfl⟩
    obtain ⟨added, grid, sown⟩ := exists_addBlob (width ▸ ground.width_pos)
      (height ▸ ground.height_pos) bounded ground.maxFood_nonneg ground.maxFood_le centre h.sowable
    rw [addRandomBlob, Attempt.outcome_bind_of_ok (Attempt.outcome_get world),
      Attempt.outcome_bind_of_ok (by rw [onLandscape, Attempt.outcome_onPart, drawn]),
      outcome_onGrid]
    exact ⟨added, _, by rw [sown]⟩
  obtain ⟨result, rng, grid, outcome, -⟩ := exists_outcome_addRandomBlob ground
  have occupied := keeps_occupied_addRandomBlob world ground
  obtain ⟨added, after, fell⟩ := falls
  rw [outcome] at occupied fell
  exact ⟨added, _, outcome.trans (by rw [(Prod.mk.inj fell).1]), h.next occupied rfl rfl h.allHale⟩

/-- The beginning of a tick does not fail, and leaves a thriving world. -/
theorem exists_outcome_beginTick (h : Thrives tick most world) :
    ∃ food middle, beginTick.outcome world = (.ok (world.animals, food), middle) ∧
      Thrives (tick + 1) most middle ∧ middle.animals = world.animals := by
  have known := (advances_beginTick h.occupied).2
  have begins : ∃ begun middle, beginTick.outcome world = (.ok begun, middle) ∧
      Thrives (tick + 1) most middle := by
    rw [beginTick, Attempt.outcome_bind_of_ok (Attempt.outcome_modify _ world),
      Attempt.outcome_bind_of_ok (Attempt.outcome_get _), Attempt.outcome_bind_of_ok
        (by rw [outcome_draw, Attempt.outcome_draw])]
    generalize (Draw.chance world.settings.blobChance world.rng : Bool × G) = falls
    have start : Thrives (tick + 1) most
        (World.reseeded { world with tick := world.tick + 1 } falls.2) :=
      ⟨h.occupied.congr rfl rfl rfl rfl, h.sowable, congrArg (· + 1) h.tick, h.allHale⟩
    cases falls.1 with
    | false => exact ⟨_, _, rfl, start⟩
    | true =>
      obtain ⟨food, fed, outcome, thrives⟩ := succeeds_addRandomBlob _ start
      rw [if_pos rfl, Attempt.outcome_bind_of_ok outcome]
      exact ⟨_, _, rfl, thrives⟩
  obtain ⟨begun, middle, outcome, thrives⟩ := begins
  obtain ⟨ids, animals⟩ := known begun middle outcome
  exact ⟨begun.2, middle, ids ▸ outcome, thrives, animals⟩

/-- The end of a tick does not fail, and leaves a thriving world. -/
theorem exists_outcome_endTick (room : ∀ id, startEnergy ≤ most id) (h : Thrives tick most world) :
    ∃ ended after, endTick.outcome world = (.ok ended, after) ∧ Thrives tick most after := by
  obtain ⟨removed, middle, outcome, runs, -, land, occupied, clears⟩ :=
    exists_outcome_removeDead h.occupied
  have ground := runs.occupancy h.occupied
  rw [endTick, Attempt.outcome_bind_of_ok outcome,
    Attempt.outcome_bind_of_ok (Attempt.outcome_modify _ middle)]
  have start : Thrives tick most { middle with deaths := middle.deaths + removed } := by
    refine h.next (ground.congr rfl rfl rfl rfl) ?_ ?_ ?_
    · rw [clears]
    · rw [clears]
    · rw [clears]
      exact h.allHale
  obtain ⟨spawned, last, filled, thrives⟩ := succeeds_fillPopulation room _ start
  obtain ⟨journal, reported⟩ := exists_outcome_reportTick removed spawned last
  rw [Attempt.outcome_bind_of_ok filled, Attempt.outcome_bind_of_ok reported]
  exact ⟨_, _, rfl, thrives.next (thrives.occupied.congr rfl rfl rfl rfl) rfl rfl thrives.allHale⟩

/-- A tick that is interrupted after some turns has not failed, and leaves a thriving world. -/
theorem exists_outcome_beginTurns (h : Thrives tick (fun _ => base) world) (hb : 0 ≤ base)
    (hs : Splittable base) (count : Nat) :
    ∃ turned, (beginTurns count).outcome world = (.ok world.animals, turned) ∧
      Thrives (tick + 1) (fun _ => base + Animal.bite) turned := by
  obtain ⟨food, middle, outcome, begun, animals⟩ := exists_outcome_beginTick h
  have distinct : (world.animals.take count ++ world.animals.drop count).Nodup := by
    rw [List.take_append_drop]
    exact h.occupied.nodup
  have start : Thrives (tick + 1)
      (tally base (world.animals.take count ++ world.animals.drop count)) middle :=
    begun.next begun.occupied rfl rfl (begun.allHale.mono (le_tally base _))
  obtain ⟨turned, turns, thrives⟩ := exists_outcome_turns start
    (animals ▸ List.take_subset _ _) distinct hb hs
  refine ⟨turned, ?_,
    thrives.next thrives.occupied rfl rfl (thrives.allHale.mono (tally_le base _))⟩
  rw [beginTurns, Attempt.outcome_bind_of_ok outcome, Attempt.outcome_bind_of_ok turns]
  rfl

/-- A step does not fail, and leaves a thriving world in which everybody may have had a bite. -/
theorem exists_outcome_step (h : Thrives tick (fun _ => base) world) (hb : startEnergy ≤ base)
    (hs : Splittable base) :
    ∃ after, step.outcome world = (.ok (), after) ∧
      Thrives (tick + 1) (fun _ => base + Animal.bite) after := by
  have positive : 0 ≤ startEnergy := by decide
  have bite : 0 ≤ Animal.bite := by decide
  obtain ⟨turned, outcome, thrives⟩ :=
    exists_outcome_beginTurns h (positive.trans hb) hs world.animals.length
  obtain ⟨ended, after, ends, last⟩ := exists_outcome_endTick (fun _ => by omega) thrives
  refine ⟨after, ?_, last⟩
  rw [step_eq_beginTurns world.animals.length, Attempt.outcome_bind_of_ok outcome,
    List.drop_length, turns, pure_bind, Attempt.outcome_bind_of_ok ends]
  rfl

/-! ## Many ticks -/

/-- The most energy of an animal at a tick. -/
def mostEnergy (tick : Nat) : Int := startEnergy + Animal.bite * tick

/-- Newcomers have no more than the most energy at any tick. -/
theorem startEnergy_le_mostEnergy (tick : Nat) : startEnergy ≤ mostEnergy tick := by
  simp only [mostEnergy, Animal.bite]
  omega

/-- The most energy grows by one bite per tick. -/
theorem mostEnergy_succ (tick : Nat) : mostEnergy (tick + 1) = mostEnergy tick + Animal.bite := by
  simp only [mostEnergy, Animal.bite]
  omega

/-- The most energy can be split up to two to the power of a thousand ticks. -/
theorem splittable_mostEnergy (h : tick ≤ 2 ^ 1000) : Splittable (mostEnergy tick) := by
  have ticks : (tick : Rat) ≤ 2 ^ (1000 : Int) := by
    rw [zpow_ofNat]
    exact_mod_cast h
  have one : (1 : Rat) ≤ 2 ^ (1000 : Int) := one_le_zpow₀ (by norm_num) (by norm_num)
  have split : (2 : Rat) ^ (1010 : Int) = 2 ^ (1000 : Int) * 2 ^ (10 : Int) :=
    zpow_add₀ (by norm_num) 1000 10
  rw [Splittable, split]
  clear split
  generalize (2 : Rat) ^ (1000 : Int) = huge at *
  simp only [mostEnergy, startEnergy, Animal.bite]
  push_cast
  linarith

/-- Steps do not fail as long as energy can be split, and leave a thriving world. -/
theorem exists_outcome_steps (count : Nat) (h : Thrives tick (fun _ => mostEnergy tick) world)
    (room : tick + count ≤ 2 ^ 1000) :
    ∃ after, (steps count).outcome world = (.ok (), after) ∧
      Thrives (tick + count) (fun _ => mostEnergy (tick + count)) after := by
  induction count generalizing tick world with
  | zero => exact ⟨world, rfl, h⟩
  | succ count ih =>
    have small : tick ≤ 2 ^ 1000 := le_trans (Nat.le_add_right _ _) room
    obtain ⟨middle, outcome, thrives⟩ :=
      exists_outcome_step h (startEnergy_le_mostEnergy tick) (splittable_mostEnergy small)
    rw [← mostEnergy_succ] at thrives
    have shift : tick + 1 + count = tick + (count + 1) := by omega
    obtain ⟨after, rest, last⟩ := ih thrives (shift ▸ room)
    rw [shift] at last
    exact ⟨after, by rw [steps, Attempt.outcome_bind_of_ok outcome, rest], last⟩

/-! ## Creation -/

/-- Blobs do not fail. -/
theorem succeeds_addRandomBlobs (count : Nat) :
    Attempt.Succeeds (Thrives (G := G) tick most) (addRandomBlobs count)
      fun _ => Thrives tick most := by
  induction count with
  | zero => exact Attempt.succeeds_pure fun _ h => h
  | succ count ih => exact succeeds_addRandomBlob.bind fun _ => ih

omit [Source G] in
/-- An entry of the journal does no harm. -/
theorem succeeds_report (level : Level) (text : String) :
    Attempt.Succeeds (Thrives (G := G) tick most) (report level text)
      fun _ => Thrives tick most :=
  Attempt.succeeds_modify fun _ h => h.next (h.occupied.congr rfl rfl rfl rfl) rfl rfl h.allHale

/-- Populating a world does not fail. -/
theorem succeeds_populate (room : ∀ id, startEnergy ≤ most id) (count : Nat) :
    Attempt.Succeeds (Thrives (G := G) tick most) (populate count) fun _ => Thrives tick most := by
  induction count with
  | zero => exact Attempt.succeeds_pure fun _ h => h
  | succ count ih =>
    apply (succeeds_spawn room).bind
    intro spawned
    cases spawned with
    | none =>
      refine Attempt.succeeds_get.bind fun _ => ?_
      exact (succeeds_report _ _).mono (fun _ h => h.1) fun _ _ h => h
    | some _ => exact ih

/-- Furnishing a world without animals does not fail. -/
theorem exists_outcome_furnish (seed : Option Int) (population : Int)
    (h : Thrives tick most world) (room : ∀ id, startEnergy ≤ most id)
    (nobody : world.animals = []) (map : world.occupied = ∅) :
    ∃ after, (furnish seed population).outcome world = (.ok (), after) ∧
      Thrives tick most after := by
  have ground := h.occupied
  obtain ⟨obstacles, land, placed, -⟩ :=
    Landscape.succeeds_placeObstacles ground.width_pos ground.height_pos ground.maxFood_nonneg
      (by decide : obstacleDensity ≠ 0) world.toLandscape ⟨ground.bounded, rfl, rfl⟩
  have obstructed : (onLandscape (Landscape.placeObstacles obstacleDensity)).outcome world =
      (.ok obstacles, { world with toLandscape := land }) := by
    rw [onLandscape, Attempt.outcome_onPart, placed]
  have rugged : Occupied { world with toLandscape := land } := by
    have rugged := occupied_rugged ground nobody map
    rwa [World.rugged, obstructed] at rugged
  have start : Thrives tick most { world with toLandscape := land } :=
    h.next rugged rfl rfl h.allHale
  unfold furnish
  rw [Attempt.outcome_bind_of_ok obstructed, Attempt.outcome_bind_of_ok (Attempt.outcome_get _)]
  obtain ⟨_, fed, feeds, sown⟩ := succeeds_addRandomBlobs land.grid.width _ start
  obtain ⟨_, full, fills, populated⟩ := succeeds_populate room population.toNat _ sown
  rw [Attempt.outcome_bind_of_ok feeds, Attempt.outcome_bind_of_ok fills,
    Attempt.outcome_bind_of_ok (Attempt.outcome_get _)]
  obtain ⟨_, after, reports, last⟩ := succeeds_report _ _ full populated
  exact ⟨after, reports, last⟩

/-- With the food of the settings that are not tuned, blobs can be worked out. -/
theorem isSowable_default : isSowable ({} : Settings).blobRadius ({} : Settings).maxFood := by
  decide +kernel

/-- A world with a cell is created without a fault. -/
theorem exists_create {width height : Int} (hw : 1 ≤ width) (hh : 1 ≤ height) (seed : Option Int)
    (rng : G) (population : Int) {settings : Settings}
    (hr : settings.blobRadius = ({} : Settings).blobRadius)
    (hf : settings.maxFood = ({} : Settings).maxFood) :
    ∃ world, create width height seed rng population settings = .ok world ∧
      Thrives 0 (fun _ => mostEnergy 0) world := by
  have empty : World.empty width height rng settings =
      .ok { grid := Grid.empty width.toNat height.toNat, rng, settings } :=
    empty_eq_ok_iff.mpr ⟨by omega, by omega, rfl⟩
  have habitable : Habitable width height settings :=
    ⟨hw, hh, hf ▸ (by decide), hf ▸ (by decide)⟩
  have start : Thrives 0 (fun _ => mostEnergy 0)
      ({ grid := Grid.empty width.toNat height.toNat, rng, settings } : World G) := by
    refine ⟨occupied_of_empty habitable empty, ?_, rfl, fun id animal ha => ?_⟩
    · rw [hr, hf]
      exact isSowable_default
    · simp at ha
  obtain ⟨world, furnished, thrives⟩ :=
    exists_outcome_furnish seed population start (fun _ => startEnergy_le_mostEnergy 0) rfl rfl
  exact ⟨world, create_eq_ok_iff.mpr ⟨_, empty, furnished⟩, thrives⟩

omit [Source G] in
/-- In a thriving world nobody has more than the most energy. -/
theorem Thrives.energy_le (h : Thrives tick (fun _ => mostEnergy tick) world) {animal : Animal}
    (ha : animal ∈ world.roster) : animal.energy ≤ 200 + 100 * world.tick := by
  obtain ⟨id, found⟩ := Array.mem_iff_getElem?.mp ha
  have bound := (h.allHale id animal found).energy
  rw [h.tick]
  exact bound

/-- A simulation does not fail. A world with a cell is created, and goes on for any number of ticks
up to two to the power of a thousand; nobody has more energy than a start and one bite per tick. The
tick that follows can be interrupted after any number of turns, and none of these fails. -/
theorem simulation_succeeds {width height : Int} (hw : 1 ≤ width) (hh : 1 ≤ height)
    (seed : Option Int) (rng : G) (population : Int) {settings : Settings}
    (hr : settings.blobRadius = ({} : Settings).blobRadius)
    (hf : settings.maxFood = ({} : Settings).maxFood) :
    ∃ world, create width height seed rng population settings = .ok world ∧
      (Grid.checkExtent width height = .ok () →
        requestFurnished width height seed rng population settings = .ok world) ∧
      ∀ count ≤ 2 ^ 1000, ∃ after,
        (steps count).outcome world = (.ok (), after) ∧
        (after.tick = count ∧ ∀ animal ∈ after.roster, animal.energy ≤ 200 + 100 * after.tick) ∧
        ∀ turns, ∃ turned,
          (beginTurns turns).outcome after = (.ok after.animals, turned) ∧
            turned.tick = count + 1 ∧
            ∀ animal ∈ turned.roster, animal.energy ≤ 200 + 100 * turned.tick := by
  obtain ⟨world, created, start⟩ := exists_create hw hh seed rng population hr hf
  refine ⟨world, created, fun extent => ?_, fun count few => ?_⟩
  · rw [requestFurnished_of_checkExtent extent, created]
  · have room : 0 + count ≤ 2 ^ 1000 := by rwa [Nat.zero_add]
    obtain ⟨after, outcome, thrives⟩ := exists_outcome_steps count start room
    rw [Nat.zero_add] at thrives
    refine ⟨after, outcome, ⟨thrives.tick, fun _ => thrives.energy_le⟩, fun turns => ?_⟩
    have nonneg : 0 ≤ mostEnergy count :=
      Int.le_trans (by decide) (startEnergy_le_mostEnergy count)
    obtain ⟨turned, interrupted, last⟩ :=
      exists_outcome_beginTurns thrives nonneg (splittable_mostEnergy few) turns
    rw [← mostEnergy_succ] at last
    exact ⟨turned, interrupted, last.tick, fun _ => last.energy_le⟩

/-- A small world with five animals goes on for a thousand ticks. -/
theorem simulation_succeeds_glade :
    (1 : Int) ≤ 3 ∧ (1 : Int) ≤ 2 ∧ Grid.checkExtent 3 2 = .ok () ∧ 1000 ≤ 2 ^ 1000 ∧
      ∃ world after : World Generator,
        requestFurnished 3 2 (some 7) (Generator.ofSeed 7) 5 {} = .ok world ∧
        (steps 1000).outcome world = (.ok (), after) ∧
        ∀ animal ∈ after.roster, animal.energy ≤ 200 + 100 * after.tick := by
  have extent : Grid.checkExtent 3 2 = .ok () := by decide
  have few (count : Nat) : count ≤ 2 ^ count := Nat.lt_two_pow_self.le
  have wide : (1 : Int) ≤ 3 := by decide
  have high : (1 : Int) ≤ 2 := by decide
  obtain ⟨world, -, requested, lasts⟩ :=
    simulation_succeeds wide high (some 7) (Generator.ofSeed 7) 5
      (rfl : ({} : Settings).blobRadius = _) rfl
  obtain ⟨after, outcome, ⟨-, energy⟩, -⟩ := lasts 1000 (few 1000)
  exact ⟨wide, high, extent, few 1000, world, after, requested extent, outcome, energy⟩

end Vivarium.World
