import Vivarium.Proofs.Evolution.Wrapping
import Vivarium.Proofs.Terrain.Shift
import Vivarium.Proofs.World.Population
import Vivarium.Proofs.World.Waiting

/-!
# Hermits

There is no bound for the energy of an animal in the worlds that are reached. On a torus of one
column an animal that heads along the row is always in front of itself, so it can never fork. If its
cell is filled up before each of its meals, it gains more in every round of its program than the
ticks of the round take.
-/

namespace Vivarium

/-- A torus of one column and two rows with certain values. -/
def plot (here there : Int) : Grid :=
  ⟨1, 2, ⟨#[here, there], rfl⟩⟩

/-- The ground of a torus of one column and two rows is told by its two values. -/
theorem eq_plot {grid : Grid} (hw : grid.width = 1) (hh : grid.height = 2) :
    grid = plot (grid.valueAt ⟨0, 0⟩) (grid.valueAt ⟨0, 1⟩) := by
  apply Grid.ext_valueAt hw hh
  rintro ⟨x, y⟩ ⟨left, right, top, bottom⟩
  simp only [hw, hh, Nat.cast_one, Nat.cast_ofNat] at left right top bottom
  obtain rfl : x = 0 := by omega
  have row : y = 0 ∨ y = 1 := by omega
  rcases row with rfl | rfl <;> rfl

/-- What a herbivore goes on with after a meal: it forks if it is rich. -/
def forkWhenRich : Tree :=
  .apply (.control .branch)
    [.apply (.comparison .greater) [.apply (.sensor .ownEnergy) [], .int 700],
      .apply (.action .fork) [.int 30], .nil]

/-- An animal with another energy, wait and held evaluation. -/
def Animal.holding (animal : Animal) (energy wait : Int) (execution : Option Execution) : Animal :=
  { animal with energy, wait, execution }

/-- An animal with what it has anyway is the same. -/
theorem Animal.holding_self (animal : Animal) :
    animal.holding animal.energy animal.wait animal.execution = animal := rfl

/-- What is held of the program of a herbivore while it eats. -/
def fedFrames : List Frame :=
  [.sequence [forkWhenRich], .sequence []]

/-- What is held of the program of a herbivore while it forks. -/
def forkFrames : List Frame :=
  [.sequence [], .sequence []]

/-- A herbivore with food under it eats. -/
theorem evaluate_herbivore_fed (ahead : Except Fault Int) (energy : Int) :
    evaluate ⟨.ok 100, ahead, energy⟩ .herbivore =
      .ok (.request (.act .eat) fedFrames) := rfl

/-- A herbivore without food under it or ahead turns to the left. -/
theorem evaluate_herbivore_hungry (energy : Int) :
    ∃ waiting, evaluate ⟨.ok 0, .ok 0, energy⟩ .herbivore =
      .ok (.request (.act .turnLeft) waiting) :=
  ⟨_, rfl⟩

/-- After a meal a herbivore forks if it has more than seven hundred. -/
theorem evaluate_forkWhenRich (senses : Senses) :
    evaluate senses forkWhenRich =
      if 700 < senses.energy then .ok (.request (.fork (some (.int 30))) [])
      else .ok (.value (.bool false)) := by
  have condition : evaluate senses
      (.apply (.comparison .greater) [.apply (.sensor .ownEnergy) [], .int 700]) =
        .ok (.value (.bool (decide (700 < senses.energy)))) := rfl
  rw [forkWhenRich, evaluate_branch]
  simp only [Tree.argument, List.getElem?_cons_zero, Option.getD_some, condition]
  by_cases rich : 700 < senses.energy
  · rw [if_pos rich, decide_eq_true rich]
    rfl
  · rw [if_neg rich, decide_eq_false rich]
    rfl

/-- After a meal a herbivore forks, or it is at the end of its program. -/
theorem deliver_fedFrames (senses : Senses) :
    deliver senses fedFrames .nil =
      if 700 < senses.energy then .ok (.request (.fork (some (.int 30))) forkFrames)
      else .ok (.value (.bool false)) := by
  simp only [deliver, fedFrames, Frame.resume, evaluateSequence, evaluate_forkWhenRich]
  split <;> rfl

namespace World

/-! ## A world for one -/

/-- Settings with which nothing happens by chance. -/
def retreat : Settings where
  maxFood := 100
  minPopulation := 0
  blobChance := .int 0
  blobRadius := 2
  cullChance := .int 0

/-- Whether an animal is alone on a torus of one column, with so much food under it. -/
structure Alone (world : World Beat) (animal : Animal) (food : Int) : Prop where
  occupied : Occupied world
  settings : world.settings = retreat
  ground : world.grid = plot food 100
  listed : world.animals = [0]
  known : world.roster[0]? = some animal
  cell : animal.cell = ⟨0, 0⟩
  program : animal.program = .herbivore

variable {world after : World Beat} {animal next : Animal} {food left : Int}

/-- Nothing happens with a chance of zero. -/
theorem chance_zero (beat : Beat) : (Draw.chance (.int 0) beat : Bool × Beat).1 = false := by
  change (Number.double
    (.finite (if beat.drawn % 17 % 3 = 2 then 1 / 4 else 1 / 2))).lt (.int 0) = _
  split <;> decide +kernel

/-- What has no chance only moves the source on. -/
theorem exists_outcome_draw_zero (world : World Beat) {chance : Number} (never : chance = .int 0) :
    ∃ rng, (World.draw (liftM (Draw.chance chance : Draw Beat Bool))).outcome world =
      (.ok false, world.reseeded rng) := by
  rw [never, outcome_draw]
  exact ⟨_, congrArg (fun happens => (Except.ok happens, world.reseeded _)) (chance_zero world.rng)⟩

namespace Alone

/-- The animal is in the list. -/
theorem member (h : Alone world animal food) : 0 ∈ world.animals := by
  rw [h.listed]
  exact List.mem_singleton_self 0

/-- The source, the tick and the counters do not matter. -/
theorem congr (h : Alone world animal food) {after : World Beat} (grid : after.grid = world.grid)
    (settings : after.settings = world.settings) (animals : after.animals = world.animals)
    (roster : after.roster = world.roster) (occupied : after.occupied = world.occupied) :
    Alone after animal food where
  occupied := by
    have kept := h.occupied.congr grid settings roster occupied
    rwa [← animals] at kept
  settings := settings.trans h.settings
  ground := grid.trans h.ground
  listed := animals.trans h.listed
  known := roster ▸ h.known
  cell := h.cell
  program := h.program

/-- A change of the animal that keeps it where it is leaves it alone. -/
theorem changed (h : Alone world animal food) (change : Animal → Animal)
    (cell : (change animal).cell = animal.cell) (program : (change animal).program = animal.program)
    (sound : animal.Sound → (change animal).Sound) :
    Alone (world.changed 0 change) (change animal) food where
  occupied := by
    have kept : Occupancy world.animals (world.changed 0 change) := by
      refine h.occupied.changed change fun found hf => ?_
      rw [h.known, Option.some.injEq] at hf
      subst hf
      exact ⟨cell, sound⟩
    exact kept
  settings := h.settings
  ground := h.ground
  listed := h.listed
  known := by
    rw [roster_changed, if_pos rfl, h.known]
    rfl
  cell := cell.trans h.cell
  program := program.trans h.program

/-! ## A tick -/

/-- No food falls at the beginning of a tick. -/
theorem outcome_beginTick (h : Alone world animal food) :
    ∃ start, beginTick.outcome world = (.ok ([0], 0), start) ∧ Alone start animal food := by
  have never : world.settings.blobChance = .int 0 := by rw [h.settings]; rfl
  obtain ⟨rng, calm⟩ := exists_outcome_draw_zero { world with tick := world.tick + 1 } never
  refine ⟨({ world with tick := world.tick + 1 } : World Beat).reseeded rng, ?_,
    h.congr rfl rfl rfl rfl rfl⟩
  rw [beginTick, Attempt.outcome_bind_of_ok (Attempt.outcome_modify _ world),
    Attempt.outcome_bind_of_ok (Attempt.outcome_get _), Attempt.outcome_bind_of_ok calm]
  exact congrArg (fun ids => (Except.ok (ids, 0), World.reseeded _ rng)) h.listed

/-- The turns of a tick are the one of the animal. -/
theorem outcome_turns (h : Alone world animal food) (alive : 1 ≤ animal.energy)
    (turned : (turn 0).outcome world = (.ok (), after)) (rest : Alone after next left) :
    (turns [0]).outcome world = (.ok (), after.changed 0 Animal.decayed) ∧
      Alone (after.changed 0 Animal.decayed) next.decayed left := by
  have living : animal.isAlive = true := decide_eq_true alive
  constructor
  · rw [turns, outcome_animal_bind h.known, if_pos living, Attempt.outcome_bind_of_ok turned]
    rfl
  · exact rest.changed Animal.decayed rfl rfl fun sound =>
      sound.withWait next.cell _ next.wait next.execution sound.wait_nonneg sound.wait_le

/-- Nobody dies at the end of a tick as long as there is energy. -/
theorem outcome_removeDead (h : Alone world animal food) (alive : 1 ≤ animal.energy) :
    ∃ after, removeDead.outcome world = (.ok 0, after) ∧ Alone after animal food := by
  have never : world.settings.cullChance = .int 0 := by rw [h.settings]; rfl
  obtain ⟨rng, spared⟩ := exists_outcome_draw_zero world never
  have stays : (isDoomed 0).outcome world = (.ok false, world.reseeded rng) := by
    rw [isDoomed, outcome_animal_bind h.known, if_neg (Int.not_lt.mpr alive),
      Attempt.outcome_bind_of_ok (Attempt.outcome_get world), spared]
  have sorted : (sortOut [0]).outcome world = (.ok ([0], 0), world.reseeded rng) := by
    rw [sortOut, Attempt.outcome_bind_of_ok stays]
    rfl
  refine ⟨{ world.reseeded rng with animals := [0] }, ?_, h.congr rfl rfl h.listed.symm rfl rfl⟩
  rw [removeDead, Attempt.outcome_bind_of_ok (Attempt.outcome_get world), h.listed,
    Attempt.outcome_bind_of_ok sorted]
  rfl

/-- Nobody is spawned, and nothing is reported. -/
theorem outcome_step (h : Alone world animal food) (alive : 1 ≤ animal.energy)
    (turns : ∀ start, Alone start animal food →
      ∃ after, (turn 0).outcome start = (.ok (), after) ∧ Alone after next left)
    (lives : 2 ≤ next.energy) : Alone (step.outcome world).2 next.decayed left := by
  obtain ⟨start, begins, started⟩ := h.outcome_beginTick
  obtain ⟨after, turned, rest⟩ := turns start started
  obtain ⟨visits, decayed⟩ := started.outcome_turns alive turned rest
  have lively : 1 ≤ next.decayed.energy := by
    simp only [Animal.decayed, Animal.energyDecay]
    omega
  obtain ⟨last, removes, ends⟩ := decayed.outcome_removeDead lively
  have ticks : untilRemoved.outcome world = (.ok 0, last) := by
    rw [untilRemoved, Attempt.outcome_bind_of_ok begins, Attempt.outcome_bind_of_ok visits, removes]
  have counted : Alone { last with deaths := last.deaths + 0 } next.decayed left :=
    ends.congr rfl rfl rfl rfl rfl
  have enough : last.settings.minPopulation ≤ last.animals.length := by
    rw [ends.settings, ends.listed]
    decide
  have full : fillPopulation.outcome { last with deaths := last.deaths + 0 } =
      (.ok 0, { last with deaths := last.deaths + 0 }) :=
    outcome_fillPopulation_of_enough (.inl enough)
  rw [step_eq_untilRemoved, Attempt.outcome_bind_of_ok ticks,
    Attempt.outcome_bind_of_ok (Attempt.outcome_modify _ last), Attempt.outcome_bind_of_ok full]
  exact counted

end Alone

/-! ## Food and actions -/

/-- A blob on a torus of one column and two rows fills both cells. -/
theorem addBlob_plot (here there : Int)
    (h : (here, there) ∈ [((0 : Int), (0 : Int)), (0, 100), (100, 100)]) :
    ((addBlob ⟨0, 0⟩ 2 100).outcome (plot here there)).2 = plot 100 100 := by
  have fills : ∀ pair ∈ [((0 : Int), (0 : Int)), (0, 100), (100, 100)],
      let blob := ((addBlob ⟨0, 0⟩ 2 100).outcome (plot pair.1 pair.2)).2
      blob.width = 1 ∧ blob.height = 2 ∧ blob.valueAt ⟨0, 0⟩ = 100 ∧
        blob.valueAt ⟨0, 1⟩ = 100 := by decide +kernel
  obtain ⟨width, height, left, right⟩ := fills _ h
  exact (eq_plot width height).trans (congrArg₂ plot left right)

/-- The food of a blob that falls in a world with the settings and the ground of a hermit. -/
theorem outcome_addRandomBlob_plot {here there : Int} (settings : world.settings = retreat)
    (ground : world.grid = plot here there)
    (h : (here, there) ∈ [((0 : Int), (0 : Int)), (0, 100), (100, 100)]) :
    (addRandomBlob.outcome world).2 = { world with grid := plot 100 100 } := by
  have corner : Landscape.randomCell.outcome world.toLandscape =
      (.ok ⟨0, 0⟩, world.toLandscape) := by
    rw [show world.toLandscape = ⟨plot here there, world.rng⟩ from by rw [← ground]]
    rfl
  rw [addRandomBlob, Attempt.outcome_bind_of_ok (Attempt.outcome_get world), onLandscape,
    Attempt.outcome_bind, Attempt.outcome_onPart]
  dsimp only
  rw [corner]
  dsimp only
  have puts : ((addBlob ⟨0, 0⟩ world.settings.blobRadius world.settings.maxFood).outcome
      world.grid).2 = plot 100 100 := by
    rw [settings, ground]
    exact addBlob_plot here there h
  rw [outcome_onGrid]
  exact congrArg (fun grid => { world with grid }) puts

/-- A blob fills the cell of the animal up. -/
theorem Alone.fed (h : Alone world animal 0) :
    Alone (addRandomBlob.outcome world).2 animal 100 := by
  have fills := outcome_addRandomBlob_plot h.settings h.ground (by decide)
  have still := keeps_occupied_addRandomBlob world h.occupied
  rw [fills] at still ⊢
  exact ⟨still, h.settings, rfl, h.listed, h.known, h.cell, h.program⟩

/-- What the animal reads where it stands. -/
theorem Alone.here (h : Alone world animal food) : world.grid.read animal.cell = .ok food := by
  rw [h.ground, h.cell]
  rfl

/-- An animal with food under it eats. -/
theorem Alone.outcome_eat (h : Alone world animal 100) :
    ∃ after, (eat 0).outcome world = (.ok (), after) ∧
      Alone after (animal.holding (animal.energy + 100) Animal.waitEat animal.execution) 0 := by
  have eaten : world.meal animal = 100 := by
    rw [meal, h.ground, h.cell]
    rfl
  have ground : (world.grazed 0 animal).grid = plot 0 100 := by
    change world.grid.put animal.cell _ = _
    rw [eaten, h.cell, h.ground, h.settings]
    rfl
  have deed : Deed world 0 animal (world.grazed 0 animal) := .graze
  refine ⟨world.grazed 0 animal, World.outcome_eat h.occupied h.member h.known,
    deed.occupancy h.occupied h.member h.known, h.settings, ground, h.listed, ?_, h.cell, h.program⟩
  rw [grazed, roster_changed, if_pos rfl, eaten]
  exact congrArg (Option.map _) h.known

/-- An animal that has only itself ahead waits after it tried to fork. -/
theorem Alone.outcome_fork (h : Alone world animal food)
    (enclosed : world.grid.wrapped animal.front = animal.cell) :
    (fork 0 (some (.int 30))).outcome world =
      (.ok none, world.changed 0 fun animal => { animal with wait := Animal.waitFork }) := by
  have taken : ¬world.isOpen (world.grid.wrapped animal.front) = true := by
    intro free
    have here := h.occupied.occupied_eq h.member h.known
    rw [← enclosed, occupied_eq_none free] at here
    contradiction
  have tried := World.outcome_fork h.occupied h.known (some (.int 30))
  rw [show clampPercentage (some (.int 30)) = .ok 30 from rfl] at tried
  dsimp only at tried
  rw [if_neg taken] at tried
  exact tried

/-- An animal that heads along the row has only itself ahead. -/
theorem Alone.enclosed (h : Alone world animal food) (heading : animal.dx = 1 ∧ animal.dy = 0) :
    world.grid.wrapped animal.front = animal.cell := by
  rw [Animal.front, h.cell, heading.1, heading.2, h.ground]
  simp [Grid.wrapped, plot]

/-- What the animal reads ahead if it heads along the row. -/
theorem Alone.ahead (h : Alone world animal food) (heading : animal.dx = 1 ∧ animal.dy = 0) :
    (do world.grid.read (← world.grid.wrap animal.front)) = .ok food := by
  rw [Grid.wrap_eq h.occupied.width_pos h.occupied.height_pos, h.enclosed heading]
  exact h.here

/-- An animal that heads up the column has an open cell ahead. -/
theorem Alone.isOpen (h : Alone world animal food) (column : animal.dx = 0) (up : animal.dy = -1) :
    world.isOpen (world.grid.wrapped animal.front) = true := by
  have front : world.grid.wrapped animal.front = ⟨0, 1⟩ := by
    rw [Animal.front, h.cell, column, up, h.ground]
    rfl
  have clear : 0 ≤ world.grid.valueAt ⟨0, 1⟩ := by
    rw [h.ground]
    exact (by decide : (0 : Int) ≤ 100)
  have free : world.occupied.contains (⟨0, 1⟩ : Cell) = false := by
    rw [Std.ExtTreeMap.contains_eq_isSome_getElem?, Option.isSome_eq_false_iff,
      Option.isNone_iff_eq_none, Option.eq_none_iff_forall_ne_some]
    intro other taken
    obtain ⟨listed, found, known, cell⟩ := (h.occupied.map _ _).mp taken
    rw [h.listed, List.mem_singleton] at listed
    rw [listed, h.known, Option.some.injEq] at known
    rw [← known, h.cell] at cell
    exact absurd cell (by decide)
  rw [front, World.isOpen, decide_eq_true clear, free]
  rfl

/-- The animal stays alone as it begins to wait after an attempt to fork. -/
theorem Alone.tired (h : Alone world animal food) :
    Alone (world.changed 0 fun animal => { animal with wait := Animal.waitFork })
      (animal.holding animal.energy Animal.waitFork animal.execution) food :=
  h.changed _ rfl rfl fun sound => sound.withWait _ _ _ _ (by decide) (by decide)

/-- The animal stays alone whatever evaluation is held for it. -/
theorem Alone.holds (h : Alone world animal food) (execution : Option Execution) :
    Alone (world.changed 0 fun animal => { animal with execution })
      (animal.holding animal.energy animal.wait execution) food :=
  h.changed _ rfl rfl fun sound =>
    sound.withWait _ _ _ _ sound.wait_nonneg sound.wait_le

/-! ## Rounds -/

/-- Whether an animal is alone like this in some world that is reached. -/
def Dwells (animal : Animal) (food : Int) : Prop :=
  ∃ world : World Beat, Reachable Habitable world ∧ Alone world animal food

namespace Dwells

variable {energy wait : Int} {execution : Option Execution}

/-- A blob may fall at any time. -/
theorem fed : Dwells animal 0 → Dwells animal 100
  | ⟨_, reached, alone⟩ => ⟨_, reached.fed, alone.fed⟩

/-- A tick may pass at any time. -/
theorem stepped (h : Dwells animal food) (alive : 1 ≤ animal.energy)
    (turns : ∀ start, Alone start animal food →
      ∃ after, (turn 0).outcome start = (.ok (), after) ∧
        Alone after (animal.holding energy wait execution) left)
    (lives : 2 ≤ energy) : Dwells (animal.holding (energy - 1) wait execution) left := by
  obtain ⟨world, reached, alone⟩ := h
  exact ⟨_, reached.stepped, alone.outcome_step alive turns lives⟩

/-- An animal rests until its wait is over. -/
theorem rested (ticks : Nat) (h : Dwells (animal.holding energy wait execution) food)
    (waits : (ticks : Int) ≤ wait) (lives : (ticks : Int) < energy) :
    Dwells (animal.holding (energy - ticks) (wait - ticks) execution) food := by
  induction ticks with
  | zero => simpa using h
  | succ ticks ih =>
    have earlier := ih (by omega) (by omega)
    have waiting : 0 < (animal.holding (energy - ticks) (wait - ticks) execution).wait := by
      simp only [Animal.holding]
      omega
    have alive : 1 ≤ (animal.holding (energy - ticks) (wait - ticks) execution).energy := by
      simp only [Animal.holding]
      omega
    have later : Dwells
        (animal.holding (energy - ticks - 1) (wait - ticks - 1) execution) food := by
      refine earlier.stepped alive
        (fun start alone => ⟨_, outcome_turn_of_waits alone.known waiting, ?_⟩) (by omega)
      refine alone.changed _ rfl rfl fun sound => ?_
      have most : wait - ticks ≤ 10 := sound.wait_le
      have more : 0 ≤ wait - ticks - 1 := by omega
      have less : wait - ticks - 1 ≤ 10 := by omega
      exact sound.withWait _ _ _ _ more less
    rwa [Nat.cast_succ, ← sub_sub, ← sub_sub]

/-- A herbivore with food under it eats it. -/
theorem eats (h : Dwells (animal.holding energy 0 none) 100) (alive : 1 ≤ energy) :
    Dwells (animal.holding (energy + 100 - 1) Animal.waitEat (some (.suspended fedFrames))) 0 := by
  refine h.stepped alive (fun start alone => ?_) (by omega)
  have asks : advance (start.senses (animal.holding energy 0 none)) animal.program none =
      .ok (.request (.act .eat) fedFrames) := by
    rw [show animal.program = .herbivore from alone.program, advance, senses, alone.here]
    exact evaluate_herbivore_fed _ _
  obtain ⟨after, eaten, rest⟩ := alone.outcome_eat
  exact ⟨_, outcome_turn_of_request alone.known le_rfl asks eaten, rest.holds _⟩

/-- A herbivore that has eaten tries in vain to fork if it is rich. -/
theorem tries (h : Dwells (animal.holding energy 0 (some (.suspended fedFrames))) food)
    (heading : animal.dx = 1 ∧ animal.dy = 0) (rich : 700 < energy) :
    Dwells (animal.holding (energy - 1) Animal.waitFork (some (.suspended forkFrames))) food := by
  refine h.stepped (by simp only [Animal.holding]; omega) (fun start alone => ?_) (by omega)
  have asks : advance (start.senses (animal.holding energy 0 (some (.suspended fedFrames))))
      animal.program (some (.suspended fedFrames)) =
        .ok (.request (.fork (some (.int 30))) forkFrames) := by
    rw [advance, deliver_fedFrames]
    exact if_pos rich
  have tried : (perform 0 (.fork (some (.int 30)))).outcome start =
      (.ok (), start.changed 0 fun animal => { animal with wait := Animal.waitFork }) := by
    rw [perform, Attempt.outcome_bind_of_ok (alone.outcome_fork (alone.enclosed heading))]
    rfl
  exact ⟨_, outcome_turn_of_request alone.known le_rfl asks tried, alone.tired.holds _⟩

/-- A herbivore that has eaten is at the end of its program if it is not rich. -/
theorem digests (h : Dwells (animal.holding energy 0 (some (.suspended fedFrames))) food)
    (alive : 2 ≤ energy) (poor : energy ≤ 700) :
    Dwells (animal.holding (energy - 1) 0 none) food := by
  refine h.stepped (by simp only [Animal.holding]; omega) (fun start alone => ?_) alive
  have ends : advance (start.senses (animal.holding energy 0 (some (.suspended fedFrames))))
      animal.program (some (.suspended fedFrames)) = .ok (.value (.bool false)) := by
    rw [advance, deliver_fedFrames]
    exact if_neg (Int.not_lt.mpr poor)
  exact ⟨_, outcome_turn_of_value alone.known le_rfl ends, alone.holds _⟩

/-- A herbivore that has tried to fork is at the end of its program. -/
theorem ends (h : Dwells (animal.holding energy 0 (some (.suspended forkFrames))) food)
    (alive : 2 ≤ energy) : Dwells (animal.holding (energy - 1) 0 none) food := by
  refine h.stepped (by simp only [Animal.holding]; omega) (fun start alone => ?_) alive
  have ends : advance (start.senses (animal.holding energy 0 (some (.suspended forkFrames))))
      animal.program (some (.suspended forkFrames)) = .ok (.value .nil) := rfl
  exact ⟨_, outcome_turn_of_value alone.known le_rfl ends, alone.holds _⟩

/-- With every meal a herbivore gains energy. -/
theorem gains (h : Dwells (animal.holding energy 0 none) 100)
    (heading : animal.dx = 1 ∧ animal.dy = 0) (alive : 1 ≤ energy) :
    ∃ more, energy < more ∧ Dwells (animal.holding more 0 none) 0 := by
  have meal := (h.eats alive).rested 5 (by decide) (by omega)
  by_cases rich : 700 < energy + 100 - 1 - 5
  · have rest := (meal.tries heading rich).rested 10 (by decide) (by omega)
    exact ⟨_, by omega, rest.ends (by omega)⟩
  · exact ⟨_, by omega, meal.digests (by omega) (by omega)⟩

/-- A herbivore that finds no food turns to the left. -/
theorem turnsLeft (h : Dwells (animal.holding energy 0 none) 0)
    (heading : animal.dx = 1 ∧ animal.dy = 0) (alive : 2 ≤ energy) :
    ∃ wait execution, Dwells (animal.turnLeft.holding (energy - 1) wait execution) 0 := by
  obtain ⟨waiting, asks⟩ := evaluate_herbivore_hungry energy
  obtain ⟨world, reached, alone⟩ := h
  have living : 1 ≤ (animal.holding energy 0 none).energy := by
    simp only [Animal.holding]
    omega
  have lives : 2 ≤ (animal.turnLeft.holding energy Animal.waitTurn
    (some (.suspended waiting))).energy := alive
  refine ⟨Animal.waitTurn, some (.suspended waiting), _, reached.stepped,
    alone.outcome_step living (fun start alone => ?_) lives⟩
  have lacks : advance (start.senses (animal.holding energy 0 none)) animal.program none =
      .ok (.request (.act .turnLeft) waiting) := by
    rw [show animal.program = .herbivore from alone.program, advance, senses, alone.here,
      alone.ahead heading]
    exact asks
  have turned : Alone (start.changed 0 Animal.turnLeft) (animal.holding energy 0 none).turnLeft 0 :=
    alone.changed _ rfl rfl Animal.Sound.turnLeft
  exact ⟨_, outcome_turn_of_request alone.known le_rfl lacks rfl, turned.holds _⟩

end Dwells

/-- A hermit may be spawned and fed. -/
theorem exists_dwells_spawned :
    ∃ animal : Animal, (animal.dx = 1 ∧ animal.dy = 0) ∧
      Dwells (animal.holding startEnergy 0 none) 100 := by
  let start : World Beat := { grid := Grid.empty 1 2, rng := ⟨0⟩, settings := retreat }
  have empty : World.empty 1 2 (⟨0⟩ : Beat) retreat = .ok start := rfl
  have habitable : Habitable 1 2 retreat := ⟨by decide, by decide, by decide, by decide⟩
  have reached : Reachable Habitable start := .empty habitable empty
  have bare : start.grid = plot 0 0 := rfl
  rcases exists_outcome_spawn start with ⟨full, -⟩ | ⟨animal, rng, born, newcomer⟩
  · exact absurd full (by decide +kernel)
  · have spawned := reached.spawned
    rw [born] at spawned
    have fills : (addRandomBlob.outcome ((start.reseeded rng).settled animal)).2 =
        { (start.reseeded rng).settled animal with grid := plot 100 100 } :=
      outcome_addRandomBlob_plot rfl bare (by decide)
    have fed := spawned.fed
    have occupied := occupied_of_reachable fed
    rw [fills] at fed occupied
    have fields : (spawn.outcome start).2.roster[0]?.map
        (fun animal => (animal.cell, animal.dx, animal.dy, animal.wait)) =
          some (⟨0, 0⟩, 1, 0, 0) := by decide +kernel
    rw [born] at fields
    obtain ⟨cell, right, level, wait⟩ : animal.cell = ⟨0, 0⟩ ∧ animal.dx = 1 ∧ animal.dy = 0 ∧
        animal.wait = 0 := by simpa [settled, reseeded, start] using fields
    have same := animal.holding_self
    rw [newcomer.energy, wait, newcomer.execution] at same
    exact ⟨animal, ⟨right, level⟩, _, fed, occupied, rfl, rfl, rfl, same ▸ rfl, cell,
      newcomer.program⟩

/-- In the worlds that are reached there are hermits with as much energy as one likes. -/
theorem exists_dwells (energy : Nat) :
    ∃ animal : Animal, (animal.dx = 1 ∧ animal.dy = 0) ∧
      ∃ most : Int, energy + 2 ≤ most ∧ Dwells (animal.holding most 0 none) 100 := by
  induction energy with
  | zero =>
    obtain ⟨animal, heading, dwells⟩ := exists_dwells_spawned
    exact ⟨animal, heading, startEnergy, by decide, dwells⟩
  | succ energy ih =>
    obtain ⟨animal, heading, most, enough, dwells⟩ := ih
    obtain ⟨more, gain, richer⟩ := dwells.gains heading (by omega)
    exact ⟨animal, heading, more, by omega, richer.fed⟩

/-- In the worlds that are reached there are animals with more energy than any power of two and with
an open cell ahead. -/
theorem exists_rich_before_open (k : Nat) :
    ∃ (world : World Beat) (animal : Animal), Reachable Habitable world ∧ world.animals = [0] ∧
      world.roster[0]? = some animal ∧ 2 ^ k ≤ animal.energy ∧
      world.isOpen (world.grid.wrapped animal.front) := by
  obtain ⟨energy, power⟩ : ∃ energy : Nat, energy = 2 ^ k := ⟨_, rfl⟩
  obtain ⟨animal, heading, most, enough, dwells⟩ := exists_dwells energy
  obtain ⟨more, gain, richer⟩ := dwells.gains heading (by omega)
  obtain ⟨wait, execution, world, reached, alone⟩ := richer.turnsLeft heading (by omega)
  refine ⟨world, _, reached, alone.listed, alone.known, ?_, ?_⟩
  · have rich : (energy : Int) ≤ more - 1 := by omega
    rw [power] at rich
    exact_mod_cast rich
  · apply alone.isOpen
    · exact heading.2
    · exact congrArg Neg.neg heading.1

end World

end Vivarium
