import Vivarium.Proofs.World.Tick
import Vivarium.Random.Twister
import Vivarium.World.Creation

/-!
# Reachable worlds

Worlds come from creation, or from an empty world, by spawns, blobs and ticks, whether these come to
their end or stop with a fault. In every reachable world the animals of the list occupy the ground,
at the end of every tick and after every turn within one.
-/

namespace Vivarium.World

variable {G : Type} [Source G]

/-- The worlds that can be reached from extents and settings that are admitted. -/
inductive Reachable (admits : Int → Int → Settings → Prop) : World G → Prop where
  /-- A world is created. -/
  | created {width height : Int} {seed : Option Int} {rng : G} {population : Int}
    {settings : Settings} {world : World G} (admitted : admits width height settings)
    (hc : create width height seed rng population settings = .ok world) : Reachable admits world
  /-- A world starts empty. -/
  | empty {width height : Int} {rng : G} {settings : Settings} {world : World G}
    (admitted : admits width height settings)
    (he : World.empty width height rng settings = .ok world) : Reachable admits world
  /-- A new lineage is spawned, if there is a free cell. -/
  | spawned {world : World G} (h : Reachable admits world) :
    Reachable admits (spawn.outcome world).2
  /-- A blob of food falls. -/
  | fed {world : World G} (h : Reachable admits world) :
    Reachable admits (addRandomBlob.outcome world).2
  /-- A tick passes. -/
  | stepped {world : World G} (h : Reachable admits world) :
    Reachable admits (step.outcome world).2

/-- Steps lead from a world that is reached to such worlds, also if a fault stops them. -/
theorem Reachable.steps {admits : Int → Int → Settings → Prop} {world : World G}
    (h : Reachable admits world) (count : Nat) :
    Reachable admits ((World.steps count).outcome world).2 := by
  induction count generalizing world with
  | zero => exact h
  | succ count ih =>
    have stepped := h.stepped
    rw [World.steps, Attempt.outcome_bind]
    generalize step.outcome world = ticked at *
    obtain ⟨result, after⟩ := ticked
    cases result with
    | error fault => exact stepped
    | ok _ => exact ih stepped

/-- The extents and settings of worlds that can be lived in. -/
def Habitable (width height : Int) (settings : Settings) : Prop :=
  1 ≤ width ∧ 1 ≤ height ∧ 0 ≤ settings.maxFood ∧ settings.maxFood ≤ 32767

/-- All extents and settings. -/
def Anywhere : Int → Int → Settings → Prop := fun _ _ _ => True

variable {world : World G}

/-- A blob keeps the occupancy. -/
theorem keeps_occupied_addRandomBlob :
    Attempt.Keeps Occupied (addRandomBlob : Sim G Int) :=
  fun _ h => (advances_addRandomBlob h).occupancy h

/-- A spawn keeps the occupancy. -/
theorem keeps_occupied_spawn : Attempt.Keeps Occupied (spawn : Sim G (Option Nat)) :=
  fun world h => (advances_spawn world).occupancy h

/-- A step keeps the occupancy. -/
theorem keeps_occupied_step : Attempt.Keeps Occupied (step : Sim G Unit) := by
  rw [step_eq]
  have passes : Attempt.Keeps Occupied (ledger : Sim G Ledger) :=
    fun _ h => (advances_ledger h).1.occupancy h
  exact passes.bind fun _ => Attempt.keeps_pure _

omit [Source G] in
/-- An entry of the journal does not matter. -/
theorem keeps_occupied_report (level : Level) (text : String) :
    Attempt.Keeps Occupied (report level text : Sim G Unit) :=
  fun _ h => h.congr rfl rfl rfl rfl

/-- Blobs keep the occupancy. -/
theorem keeps_occupied_addRandomBlobs (count : Nat) :
    Attempt.Keeps Occupied (addRandomBlobs count : Sim G Unit) := by
  induction count with
  | zero => exact Attempt.keeps_pure _
  | succ count ih => exact keeps_occupied_addRandomBlob.bind fun _ => ih

/-- Populating a world keeps the occupancy. -/
theorem keeps_occupied_populate (count : Nat) :
    Attempt.Keeps Occupied (populate count : Sim G Unit) := by
  induction count with
  | zero => exact Attempt.keeps_pure _
  | succ count ih =>
    apply keeps_occupied_spawn.bind
    intro spawned
    cases spawned with
    | none => exact Attempt.keeps_get.bind fun _ => keeps_occupied_report _ _
    | some _ => exact ih

omit [Source G] in
/-- Nobody occupies a world without animals. -/
theorem occupied_of_nobody (hw : 0 < world.grid.width) (hh : 0 < world.grid.height)
    (hl : 0 ≤ world.settings.maxFood) (hu : world.settings.maxFood ≤ 32767)
    (bounded : world.grid.Bounded world.settings.maxFood) (nobody : world.animals = [])
    (map : world.occupied = ∅) : Occupied world where
  width_pos := hw
  height_pos := hh
  maxFood_nonneg := hl
  maxFood_le := hu
  bounded := bounded
  nodup := by
    rw [nobody]
    exact List.nodup_nil
  known id hid := by
    rw [nobody] at hid
    contradiction
  map cell id := by
    rw [nobody, map]
    simp

omit [Source G] in
/-- An empty world is empty ground. -/
theorem empty_eq_ok_iff {width height : Int} {rng : G} {settings : Settings} :
    World.empty width height rng settings = .ok world ↔
      0 ≤ width ∧ 0 ≤ height ∧
        world = { grid := Grid.empty width.toNat height.toNat, rng, settings } := by
  rw [World.empty, bind_eq_ok_iff, Grid.create]
  by_cases negative : width < 0 ∨ height < 0
  · simp only [if_pos negative]
    constructor
    · rintro ⟨_, fault, -⟩
      contradiction
    · omega
  · simp only [if_neg negative]
    constructor
    · rintro ⟨grid, hg, hw⟩
      cases hg
      cases hw
      exact ⟨by omega, by omega, rfl⟩
    · rintro ⟨-, -, rfl⟩
      exact ⟨_, rfl, rfl⟩

omit [Source G] in
/-- An empty world that can be lived in is occupied by nobody. -/
theorem occupied_of_empty {width height : Int} {rng : G} {settings : Settings}
    (hab : Habitable width height settings)
    (he : World.empty width height rng settings = .ok world) : Occupied world := by
  obtain ⟨-, -, rfl⟩ := empty_eq_ok_iff.mp he
  obtain ⟨hw, hh, hl, hu⟩ := hab
  refine occupied_of_nobody ?_ ?_ hl hu (Grid.bounded_empty hl _ _) rfl rfl
  · change 0 < width.toNat
    omega
  · change 0 < height.toNat
    omega

/-- Furnishing an empty world leaves it occupied. -/
theorem occupied_of_furnish (seed : Option Int) (population : Int) (h : Occupied world)
    (nobody : world.animals = []) (map : world.occupied = ∅) :
    Occupied ((furnish seed population).outcome world).2 := by
  have ground := Landscape.keeps_placeObstacles h.maxFood_nonneg obstacleDensity world.toLandscape
    ⟨h.bounded, rfl, rfl⟩
  unfold furnish
  rw [Attempt.outcome_bind, onLandscape, Attempt.outcome_onPart]
  dsimp only
  generalize (Landscape.placeObstacles obstacleDensity).outcome world.toLandscape = placed at *
  obtain ⟨result, land⟩ := placed
  obtain ⟨bounded, width, height⟩ := ground
  have start : Occupied { world with toLandscape := land } := by
    refine occupied_of_nobody ?_ ?_ h.maxFood_nonneg h.maxFood_le bounded nobody map
    · exact width ▸ h.width_pos
    · exact height ▸ h.height_pos
  cases result with
  | error fault => exact start
  | ok obstacles =>
    refine Attempt.Keeps.bind Attempt.keeps_get (fun _ => ?_) _ start
    apply (keeps_occupied_addRandomBlobs _).bind
    intro _
    apply (keeps_occupied_populate _).bind
    intro _
    exact Attempt.keeps_get.bind fun _ => keeps_occupied_report _ _

/-- A created world is an empty one that was furnished. -/
theorem create_eq_ok_iff {width height : Int} {seed : Option Int} {rng : G} {population : Int}
    {settings : Settings} :
    create width height seed rng population settings = .ok world ↔
      ∃ start, World.empty width height rng settings = .ok start ∧
        (furnish seed population).outcome start = (.ok (), world) := by
  rw [create, bind_eq_ok_iff]
  refine exists_congr fun start => and_congr_right fun _ => ?_
  rcases (furnish seed population).outcome start with ⟨result, after⟩
  cases result with
  | error fault => simp [Except.map]
  | ok _ => simp [Except.map]

/-- A created world that can be lived in is occupied. -/
theorem occupied_of_create {width height : Int} {seed : Option Int} {rng : G} {population : Int}
    {settings : Settings} (hab : Habitable width height settings)
    (hc : create width height seed rng population settings = .ok world) : Occupied world := by
  obtain ⟨start, he, hf⟩ := create_eq_ok_iff.mp hc
  have ground := occupied_of_empty hab he
  obtain ⟨-, -, rfl⟩ := empty_eq_ok_iff.mp he
  have furnished := occupied_of_furnish seed population ground rfl rfl
  rwa [hf] at furnished

/-- A world that is reached from one that can be lived in is occupied. -/
theorem occupied_of_reachable (h : Reachable Habitable world) : Occupied world := by
  induction h with
  | created hab hc => exact occupied_of_create hab hc
  | empty hab he => exact occupied_of_empty hab he
  | spawned _ ih => exact keeps_occupied_spawn _ ih
  | fed _ ih => exact keeps_occupied_addRandomBlob _ ih
  | stepped _ ih => exact keeps_occupied_step _ ih

/-- A tick that is interrupted after some turns leaves an occupied world. -/
theorem keeps_occupied_beginTurns (count : Nat) :
    Attempt.Keeps Occupied (beginTurns count : Sim G (List Nat)) := by
  intro world h
  obtain ⟨begins, known⟩ := advances_beginTick h
  have begun := begins.occupancy h
  rw [beginTurns, Attempt.outcome_bind]
  generalize beginTick.outcome world = outcome at *
  obtain ⟨result, middle⟩ := outcome
  cases result with
  | error fault => exact begun
  | ok start =>
    obtain ⟨ids, animals⟩ := known start middle rfl
    have listed : start.1.take count ⊆ middle.animals := by
      rw [ids, animals]
      exact List.take_subset _ _
    have turned := (advances_turns begun listed).occupancy begun
    dsimp only
    rw [Attempt.outcome_bind]
    generalize (turns (start.1.take count)).outcome middle = outcome at *
    obtain ⟨result, last⟩ := outcome
    cases result <;> exact turned

/-- At the end of a completed step everybody in the list lives. -/
theorem lively_of_step {after : World G} (h : Occupied world)
    (hs : step.outcome world = (.ok (), after)) : Lively after := by
  rw [step_eq] at hs
  obtain ⟨written, last, hl, rest⟩ := Attempt.outcome_bind_eq_ok_iff.mp hs
  cases rest
  exact (advances_ledger h).2 written after hl

/-- With the settings that are not tuned, every extent with a cell can be lived in. -/
theorem habitable_default {width height : Int} (hw : 1 ≤ width) (hh : 1 ≤ height) :
    Habitable width height {} :=
  ⟨hw, hh, by decide, by decide⟩

/-- Whether a world is a certain small one after a spawn and a tick. -/
def Glade (world : World Generator) : Prop :=
  ∃ start, World.empty 3 2 (Generator.ofSeed 7) {} = .ok start ∧
    world = (step.outcome (spawn.outcome start).2).2

/-- The small world is reachable. -/
theorem exists_glade {admits : Int → Int → Settings → Prop} (h : admits 3 2 {}) :
    ∃ world, Glade world ∧ Reachable admits world := by
  have reachable (start : World Generator)
      (he : World.empty 3 2 (Generator.ofSeed 7) {} = .ok start) :
      Reachable admits (step.outcome (spawn.outcome start).2).2 :=
    .stepped (.spawned (.empty h he))
  exact ⟨_, ⟨_, rfl, rfl⟩, reachable _ rfl⟩

/-- A source that repeats a few numbers and picks what comes first. -/
structure Beat where
  /-- The numbers that were drawn. -/
  drawn : Nat

instance : Source Beat where
  unit beat := (.finite (if beat.drawn % 17 % 3 = 2 then 1 / 4 else 1 / 2), ⟨beat.drawn + 1⟩)
  below _ h beat := (⟨0, h⟩, beat)

/-- A world with two cells on one of which an animal was spawned. -/
def islet : World Beat :=
  (spawn.outcome { grid := Grid.empty 2 1, rng := ⟨0⟩, settings := {} }).2

/-- The world with two cells is reachable. -/
theorem reachable_islet {admits : Int → Int → Settings → Prop} (h : admits 2 1 {}) :
    Reachable admits islet := by
  have empty : World.empty 2 1 (⟨0⟩ : Beat) {} =
      .ok { grid := Grid.empty 2 1, rng := ⟨0⟩, settings := {} } := rfl
  exact .spawned (.empty h empty)

/-- A world with two cells and an animal on each of them. -/
def duo : World Beat := (spawn.outcome islet).2

/-- Reachable worlds are occupied, also after every turn of the next tick and before the energy of
the tick is taken for it; after a completed tick everybody in the list lives. -/
theorem occupied_throughout (h : Reachable Habitable world) :
    Occupied world ∧
      (∀ count,
        (step : Sim G Unit) = (do
          let ids ← beginTurns count
          turns (ids.drop count)
          let _ ← endTick) ∧
        let turned := ((beginTurns count).outcome world).2
        Occupied turned ∧
          ∀ id ∈ turned.animals, ∀ animal, turned.roster[id]? = some animal → animal.isAlive →
            Occupied ((turn id).outcome turned).2) ∧
      ∀ after, step.outcome world = (.ok (), after) → Occupied after ∧ Lively after := by
  have occupied := occupied_of_reachable h
  refine ⟨occupied, fun count => ⟨step_eq_beginTurns count, ?_⟩, fun after hs => ?_⟩
  · have turned := keeps_occupied_beginTurns count world occupied
    refine ⟨turned, fun id hid animal ha alive => ?_⟩
    exact (runs_turn turned hid ha (by simpa [Animal.isAlive] using alive)).1.occupancy turned
  · have kept := keeps_occupied_step world occupied
    rw [hs] at kept
    exact ⟨kept, lively_of_step occupied hs⟩

/-- The small world is occupied. -/
theorem occupied_throughout_glade :
    ∃ world, Glade world ∧ Reachable Habitable world ∧ Occupied world := by
  obtain ⟨world, glade, reachable⟩ := exists_glade (habitable_default (by decide) (by decide))
  exact ⟨world, glade, reachable, (occupied_throughout reachable).1⟩

end Vivarium.World
