import Vivarium.Proofs.World.Spawning
import Vivarium.Proofs.World.Turns

/-!
# Ticks

A tick has three parts: its beginning, at which a blob of food may fall, the turns, and its end, at
which the dead are removed and the population is filled up. With the food that fell and the numbers
of the removed and the spawned written down, a tick comes about by events that bring just the energy
of that food and of the spawned.
-/

namespace Vivarium.World

variable {G : Type} [Source G]
variable {world : World G}

/-! ## The parts of a tick -/

/-- The beginning of a tick. Return who takes a turn in it and how much food fell. -/
def beginTick : Sim G (List Nat × Int) := do
  modify fun world => { world with tick := world.tick + 1 }
  let world : World G ← get
  if ← draw (Draw.chance world.settings.blobChance : Draw G Bool) then
    return (world.animals, ← addRandomBlob)
  else return (world.animals, 0)

/-- Report the removed and the spawned of a tick, if there are any. -/
def reportTick (removed spawned : Nat) : Sim G Unit := do
  if 0 < removed ∨ 0 < spawned then
    let world : World G ← get
    report .debug ("[World] tick=" ++ toString world.tick ++ " removed=" ++ toString removed ++
      " spawned=" ++ toString spawned ++ " population=" ++ toString world.animals.length)

/-- The end of a tick. Return how many animals were removed and how many spawned. -/
def endTick : Sim G (Nat × Nat) := do
  let removed ← removeDead
  modify fun world => { world with deaths := world.deaths + removed }
  let spawned ← fillPopulation
  reportTick removed spawned
  return (removed, spawned)

/-- What is written down about a tick. -/
structure Ledger where
  /-- The food that fell in a blob. -/
  food : Int
  /-- The number of animals removed. -/
  removed : Nat
  /-- The number of animals spawned. -/
  spawned : Nat

/-- One tick, written down. -/
def ledger : Sim G Ledger := do
  let (ids, food) ← beginTick
  turns ids
  let (removed, spawned) ← endTick
  return ⟨food, removed, spawned⟩

/-- A tick up to the end of the turns of so many animals. -/
def beginTurns (count : Nat) : Sim G (List Nat) := do
  let (ids, _) ← beginTick
  turns (ids.take count)
  return ids

/-- The turns of some animals and then of others are the turns of all of them. -/
theorem turns_append (first second : List Nat) :
    (turns (first ++ second) : Sim G Unit) = (do turns first; turns second) := by
  induction first with
  | nil => rfl
  | cons id first ih =>
    simp only [List.cons_append, turns, ih, bind_assoc]
    apply bind_congr
    intro animal
    split <;> simp only [bind_assoc]

/-- A step is a tick that is not written down. -/
theorem step_eq : (step : Sim G Unit) = (do let _ ← ledger) := by
  simp only [ledger, beginTick, endTick, bind_assoc, pure_bind, bind_pure_unit]
  refine bind_congr fun _ => bind_congr fun world => bind_congr fun falls => ?_
  cases falls with
  | false => rfl
  | true =>
    simp only [if_true, bind_assoc, pure_bind]
    rfl

/-- A step may be interrupted after so many turns. -/
theorem step_eq_beginTurns (count : Nat) :
    (step : Sim G Unit) =
      (do
        let ids ← beginTurns count
        turns (ids.drop count)
        let _ ← endTick) := by
  rw [step_eq]
  simp only [ledger, beginTurns, bind_assoc, pure_bind]
  apply bind_congr
  intro begun
  have parts := turns_append (G := G) (begun.1.take count) (begun.1.drop count)
  rw [List.take_append_drop] at parts
  rw [parts, bind_assoc]

/-! ## Ticks come about by events -/

/-- Drawing a cell leaves the ground alone. -/
theorem exists_outcome_randomCell (land : Landscape G) :
    ∃ result rng, Landscape.randomCell.outcome land = (result, { land with rng }) := by
  rw [Landscape.randomCell, Attempt.outcome_bind_of_ok (Attempt.outcome_get land),
    Attempt.outcome_bind, Landscape.draw, Attempt.outcome_onPart]
  rcases (Draw.index land.grid.width).outcome land.rng with ⟨column, rng⟩
  cases column with
  | error fault => exact ⟨.error fault, rng, rfl⟩
  | ok x =>
    dsimp only
    rw [Attempt.outcome_bind, Landscape.draw, Attempt.outcome_onPart]
    rcases (Draw.index land.grid.height).outcome rng with ⟨row, rng⟩
    cases row with
    | error fault => exact ⟨.error fault, rng, rfl⟩
    | ok y => exact ⟨.ok ⟨x, y⟩, rng, rfl⟩

/-- A random blob tends the ground and returns the plant mass that it adds. -/
theorem exists_outcome_addRandomBlob {ids : List Nat} (h : Occupancy ids world) :
    ∃ result rng grid, addRandomBlob.outcome world = (result, { world.reseeded rng with grid }) ∧
      Grid.Gains world.settings.maxFood world.grid 0 (result, grid) := by
  obtain ⟨drawn, rng, hd⟩ := exists_outcome_randomCell world.toLandscape
  rw [addRandomBlob, Attempt.outcome_bind_of_ok (Attempt.outcome_get world), onLandscape,
    Attempt.outcome_bind, Attempt.outcome_onPart]
  dsimp only
  rw [hd]
  cases drawn with
  | error fault =>
    exact ⟨.error fault, rng, world.grid, rfl, .refl _, fun total ht => by cases ht⟩
  | ok centre =>
    have gain := gains_addBlob h.width_pos h.height_pos h.bounded h.maxFood_nonneg h.maxFood_le
      centre world.settings.blobRadius
    refine ⟨_, rng, _, ?_, gain⟩
    dsimp only
    rw [outcome_onGrid]
    rfl

/-- A random blob brings the food that it adds. -/
theorem advances_addRandomBlob (h : Occupancy world.animals world) :
    Advances id world (addRandomBlob.outcome world) := by
  obtain ⟨result, rng, grid, outcome, tended, gain⟩ := exists_outcome_addRandomBlob h
  rw [outcome]
  have drawn := happens_reseeded world.animals world rng
  have falls : Happens (.blob (grid.plantMass - world.grid.plantMass)) world.animals
      (world.reseeded rng) world.animals { world.reseeded rng with grid } :=
    .blob tended (add_sub_cancel _ _).symm
  refine ⟨_, .cons drawn falls.passes, fun added ha => ?_⟩
  have mass := gain added ha
  dsimp only at mass
  simp only [gains_cons, gains_nil, Event.gain, id, mass]
  omega

/-- A tick begins with the food that falls, and everybody in the list takes a turn. -/
theorem advances_beginTick (h : Occupancy world.animals world) :
    Advances Prod.snd world (beginTick.outcome world) ∧
      ∀ begun middle, beginTick.outcome world = (.ok begun, middle) →
        begun.1 = world.animals ∧ middle.animals = world.animals := by
  rw [beginTick, Attempt.outcome_bind_of_ok (Attempt.outcome_modify _ world),
    Attempt.outcome_bind_of_ok (Attempt.outcome_get _), Attempt.outcome_bind_of_ok
      (by rw [outcome_draw, Attempt.outcome_draw])]
  generalize (Draw.chance world.settings.blobChance world.rng : Bool × G) = falls
  generalize hs : World.reseeded { world with tick := world.tick + 1 } falls.2 = start
  have animals : start.animals = world.animals := hs ▸ rfl
  have counted : Happens .note world.animals world start.animals start := by
    subst hs
    exact .note rfl rfl rfl rfl
  have here := counted.occupancy h
  cases falls.1 with
  | false =>
    refine ⟨⟨_, counted.passes, fun _ hb => ?_⟩, fun _ _ hb => ?_⟩
    · cases hb
      rfl
    · cases hb
      exact ⟨rfl, animals⟩
  | true =>
    obtain ⟨events, passes, gain⟩ := advances_addRandomBlob here
    obtain ⟨result, rng, grid, outcome, -⟩ := exists_outcome_addRandomBlob here
    rw [outcome] at passes gain
    rw [if_pos rfl, Attempt.outcome_bind, outcome]
    generalize hf : { start.reseeded rng with grid } = fed at *
    cases result with
    | error fault => exact ⟨⟨_, .cons counted passes, nofun⟩, fun _ _ hb => by simp at hb⟩
    | ok food =>
      dsimp only
      rw [Attempt.outcome_pure]
      refine ⟨⟨_, .cons counted passes, fun begun hb => ?_⟩, fun _ _ hb => ?_⟩
      · cases hb
        rw [gains_cons, gain food rfl]
        exact Int.zero_add food
      · cases hb
        exact ⟨rfl, hf ▸ animals⟩

/-- The turns of animals of the list bring nothing. -/
theorem advances_turns (h : Occupancy world.animals world) {ids : List Nat}
    (hids : ids ⊆ world.animals) :
    Advances (fun _ => 0) world ((turns ids).outcome world) := by
  obtain ⟨⟨events, gain, passes⟩, -⟩ := runs_turns h hids
  exact ⟨events, passes, fun _ _ => gain⟩

/-- Removing the dead never fails and brings nothing, and those who are left live. It clears the
world and changes the list. -/
theorem exists_outcome_removeDead (h : Occupancy world.animals world) :
    ∃ removed after, removeDead.outcome world = (.ok removed, after) ∧
      Runs world.animals world after.animals after ∧ Lively after ∧
      Cleared { world with animals := after.animals } after := by
  obtain ⟨survivors, removed, after, outcome, runs, clears, alive⟩ := exists_outcome_sortOut [] h
  have listed : Happens .note survivors after survivors { after with animals := survivors } :=
    .note rfl rfl rfl rfl
  obtain ⟨land, occupied, rfl⟩ := clears
  refine ⟨removed, { world with toLandscape := land, occupied, animals := survivors }, ?_,
    runs.trans (listed.runs rfl), alive, land, occupied, rfl⟩
  rw [removeDead, Attempt.outcome_bind_of_ok (Attempt.outcome_get world),
    Attempt.outcome_bind_of_ok outcome]
  rfl

omit [Source G] in
/-- A report changes the journal at most. -/
theorem exists_outcome_reportTick (removed spawned : Nat) (world : World G) :
    ∃ journal, (reportTick removed spawned).outcome world = (.ok (), { world with journal }) := by
  rw [reportTick]
  split
  · exact ⟨_, rfl⟩
  · exact ⟨world.journal, rfl⟩

/-- A tick ends with the energy of the spawned, and those who are left live. -/
theorem advances_endTick (h : Occupancy world.animals world) :
    Advances (fun (ended : Nat × Nat) => startEnergy * ended.2) world (endTick.outcome world) ∧
      Lively (endTick.outcome world).2 := by
  obtain ⟨removed, middle, outcome, ⟨events, gain, passes⟩, lively, -⟩ :=
    exists_outcome_removeDead h
  rw [endTick, Attempt.outcome_bind_of_ok outcome,
    Attempt.outcome_bind_of_ok (Attempt.outcome_modify _ middle), Attempt.outcome_bind]
  generalize hs : { middle with deaths := middle.deaths + removed } = start
  have counted : Happens .note middle.animals middle start.animals start := by
    subst hs
    exact .note rfl rfl rfl rfl
  have here := counted.occupancy (passes.occupancy h)
  have alive : Lively start := hs ▸ lively
  obtain ⟨more, fills, brings⟩ := advances_fillPopulation here
  obtain ⟨-, still⟩ := keeps_lively_fillPopulation start ⟨here, alive⟩
  generalize fillPopulation.outcome start = filled at *
  obtain ⟨result, last⟩ := filled
  have start := passes.append (.cons counted fills)
  cases result with
  | error fault => exact ⟨⟨_, start, nofun⟩, still⟩
  | ok spawned =>
    obtain ⟨journal, reported⟩ := exists_outcome_reportTick removed spawned last
    have written : Happens .note last.animals last last.animals { last with journal } :=
      .note rfl rfl rfl rfl
    dsimp only
    rw [Attempt.outcome_bind_of_ok reported]
    refine ⟨⟨_, start.append written.passes, fun ended he => ?_⟩, still⟩
    cases he
    simp only [gains_append, gains_cons, gain, brings spawned rfl, Event.gain, gains_nil]
    omega

/-- A tick brings the food that falls in it and the energy of the spawned, and at its end everybody
lives. -/
theorem advances_ledger (h : Occupancy world.animals world) :
    Advances (fun ledger : Ledger => ledger.food + startEnergy * ledger.spawned) world
        (ledger.outcome world) ∧
      ∀ written after, ledger.outcome world = (.ok written, after) → Lively after := by
  obtain ⟨begins, known⟩ := advances_beginTick h
  constructor
  · apply begins.bind h
    intro begun middle hb hm
    obtain ⟨ids, animals⟩ := known begun middle hb
    refine (advances_turns hm ?_).bind hm fun _ last _ hl => ?_
    · rw [ids, animals]
      exact List.Subset.refl _
    · refine (advances_endTick hl).1.bind hl fun ended after _ _ => .pure ?_
      dsimp only
      omega
  · intro written after outcome
    obtain ⟨begun, middle, hb, outcome⟩ := Attempt.outcome_bind_eq_ok_iff.mp outcome
    obtain ⟨_, last, ht, outcome⟩ := Attempt.outcome_bind_eq_ok_iff.mp outcome
    obtain ⟨ended, final, he, outcome⟩ := Attempt.outcome_bind_eq_ok_iff.mp outcome
    obtain ⟨ids, animals⟩ := known begun middle hb
    have hm := begins.occupancy_of_eq h hb
    have listed : begun.1 ⊆ middle.animals := by
      rw [ids, animals]
      exact List.Subset.refl _
    have hl := (advances_turns hm listed).occupancy_of_eq hm ht
    have alive := (advances_endTick hl).2
    rw [he] at alive
    cases outcome
    exact alive

end Vivarium.World
