import Vivarium.Proofs.World.Resumptions
import Vivarium.Proofs.World.Shift

/-!
# Homogeneity

The torus has no special place. What an animal does after a shift of its world is the shift of what
it would have done, and comes to the same value or fault. The same holds for all turns of a tick and
for its end, and so for a whole step in which no random cell is drawn.
-/

namespace Vivarium.World

variable {G : Type} {α β : Type} {s : Shift} {world : World G} {ids : List Nat} {id : Nat}
  {animal : Animal}

/-- Whether an attempt comes to the same after a shift of a world, and leaves the shift of what it
would have left. -/
def Follows (s : Shift) (attempt : Sim G α) (world : World G) : Prop :=
  attempt.outcome (world.shifted s) =
    ((attempt.outcome world).1, (attempt.outcome world).2.shifted s)

/-! ## Combinations -/

/-- A value reached at once follows a shift. -/
theorem follows_pure (a : α) : Follows s (pure a) world := rfl

/-- A fault reached at once follows a shift. -/
theorem follows_throw (fault : Fault) : Follows s (throw fault : Sim G α) world := rfl

/-- Two attempts in a row follow a shift if the second one does wherever the first one leads. -/
theorem Follows.bind {first : Sim G α} {next : α → Sim G β} (h : Follows s first world)
    (h' : ∀ a after, first.outcome world = (.ok a, after) → Follows s (next a) after) :
    Follows s (first >>= next) world := by
  rw [Follows, Attempt.outcome_bind, Attempt.outcome_bind, h]
  rcases hf : first.outcome world with ⟨result, after⟩
  cases result with
  | error fault => rfl
  | ok a => exact h' a after hf

/-- An attempt and its handler follow a shift together. -/
theorem Follows.tryCatch {attempt : Sim G α} {handler : Fault → Sim G α}
    (h : Follows s attempt world)
    (h' : ∀ fault after, attempt.outcome world = (.error fault, after) →
      Follows s (handler fault) after) : Follows s (tryCatch attempt handler) world := by
  rw [Follows, Attempt.outcome_tryCatch, Attempt.outcome_tryCatch, h]
  rcases ha : attempt.outcome world with ⟨result, after⟩
  cases result with
  | error fault => exact h' fault after ha
  | ok a => rfl

/-- A change of the world follows a shift if both orders of the two come to the same. -/
theorem follows_modify {change : World G → World G}
    (h : change (world.shifted s) = (change world).shifted s) :
    Follows s (modify change : Sim G PUnit) world := by
  rw [Follows, Attempt.outcome_modify, Attempt.outcome_modify, h]

/-- Draws follow a shift. -/
theorem follows_draw (attempt : Attempt G α) : Follows s (draw attempt : Sim G α) world := by
  rw [Follows, outcome_draw, outcome_draw]
  rfl

/-- A change of an animal that does not depend on where it stands follows a shift. -/
theorem follows_changeAnimal {change : Animal → Animal}
    (hc : ∀ animal, (change animal).carried (world.grid.moved s) =
      change (animal.carried (world.grid.moved s))) :
    Follows s (changeAnimal id change : Sim G Unit) world := by
  rw [Follows, outcome_changeAnimal, outcome_changeAnimal, shifted_changed hc]

/-- What is read of the world follows a shift if it is the same in the shifted world. -/
theorem Follows.of_get {next : World G → Sim G α} (same : next (world.shifted s) = next world)
    (h : Follows s (next world) world) : Follows s (get >>= next) world := by
  rw [Follows, Attempt.outcome_bind_of_ok (Attempt.outcome_get _),
    Attempt.outcome_bind_of_ok (Attempt.outcome_get _), same]
  exact h

/-- What is read of an animal follows a shift if it does not depend on where the animal stands. -/
theorem Follows.of_animal (ha : world.roster[id]? = some animal) {next : Animal → Sim G α}
    (same : next (animal.carried (world.grid.moved s)) = next animal)
    (h : Follows s (next animal) world) : Follows s (World.animal id >>= next) world := by
  rw [Follows, outcome_animal_bind ha, outcome_animal_bind (roster_shifted ha), same]
  exact h

/-! ## Actions -/

section

variable (h : Occupancy ids world) (ha : world.roster[id]? = some animal)

include h ha

/-- What an animal senses goes with it. -/
theorem senses_shifted (hid : id ∈ ids) :
    (world.shifted s).senses (animal.carried (world.grid.moved s)) = world.senses animal := by
  obtain ⟨-, inside, -⟩ := h.stands hid ha
  have shifted := h.shifted s
  have front := Grid.inside_wrapped h.width_pos h.height_pos animal.front
  have here := Grid.inside_moved h.width_pos h.height_pos s animal.cell
  have ahead := Grid.inside_moved h.width_pos h.height_pos s (world.grid.wrapped animal.front)
  have foodHere : (world.shifted s).grid.read (world.grid.moved s animal.cell) =
      world.grid.read animal.cell := by
    rw [Grid.read_of_inside inside, ← valueAt_shifted (s := s) h inside]
    exact Grid.read_of_inside here
  have foodAhead : ((world.shifted s).grid.wrap (animal.carried (world.grid.moved s)).front >>=
      (world.shifted s).grid.read) = (world.grid.wrap animal.front >>= world.grid.read) := by
    rw [Grid.wrap_eq h.width_pos h.height_pos, Grid.wrap_eq shifted.width_pos shifted.height_pos]
    change (world.shifted s).grid.read
      (world.grid.wrapped (animal.carried (world.grid.moved s)).front) =
        world.grid.read (world.grid.wrapped animal.front)
    rw [wrapped_front_carried, Grid.read_of_inside front, ← valueAt_shifted (s := s) h front]
    exact Grid.read_of_inside ahead
  exact congrArg₂ (Senses.mk · · animal.energy) foodHere foodAhead

/-- A step onto a cell follows a shift, onto the cell where that one goes. -/
theorem outcome_stepTo_shifted (hid : id ∈ ids) {cell : Cell} (inside : world.grid.Inside cell) :
    (stepTo id (world.grid.moved s cell)).outcome (world.shifted s) =
      (((stepTo id cell).outcome world).1, ((stepTo id cell).outcome world).2.shifted s) := by
  rw [outcome_stepTo h hid ha inside, outcome_stepTo (h.shifted s) hid (roster_shifted ha)
    (Grid.inside_moved h.width_pos h.height_pos s cell), isOpen_shifted h inside]
  by_cases hopen : world.isOpen cell
  · simp only [if_pos hopen, shifted_relocated h hid ha inside hopen]
    rfl
  · simp only [if_neg hopen]

/-- A hit follows a shift. -/
theorem follows_hit : Follows s (hit id : Sim G Unit) world := by
  have front := Grid.inside_wrapped h.width_pos h.height_pos animal.front
  have moves : (world.shifted s).grid.wrapped (animal.carried (world.grid.moved s)).front =
      world.grid.moved s (world.grid.wrapped animal.front) :=
    wrapped_front_carried world.grid s animal
  rw [Follows, outcome_hit h ha, outcome_hit (h.shifted s) (roster_shifted ha), moves,
    h.getElem?_moved s front]
  cases hv : world.occupied[world.grid.wrapped animal.front]? with
  | none => rfl
  | some victim =>
    obtain ⟨-, target, ht, -⟩ := (h.map _ _).mp hv
    dsimp only
    rw [ht, roster_shifted ht]
    dsimp only
    rw [shifted_struck h front]
    rfl

variable [Source G]

/-- A fork follows a shift. -/
theorem follows_fork (hid : id ∈ ids) (asked : Option Number) :
    Follows s (fork id asked : Sim G (Option Nat)) world := by
  have front := Grid.inside_wrapped h.width_pos h.height_pos animal.front
  have moves : (world.shifted s).grid.wrapped (animal.carried (world.grid.moved s)).front =
      world.grid.moved s (world.grid.wrapped animal.front) :=
    wrapped_front_carried world.grid s animal
  have inherits : (world.shifted s).legacy (animal.carried (world.grid.moved s)) =
      world.legacy animal := rfl
  have tires : (world.changed id Animal.tired).shifted s =
      (world.shifted s).changed id Animal.tired := shifted_changed fun _ => rfl
  have size : (world.shifted s).roster.size = world.roster.size := Array.size_map ..
  rw [Follows, outcome_fork h ha, outcome_fork (h.shifted s) (roster_shifted ha), moves, inherits,
    size, isOpen_shifted h front]
  cases clampPercentage asked with
  | error fault => rfl
  | ok percentage =>
    dsimp only
    by_cases hopen : world.isOpen (world.grid.wrapped animal.front)
    · rw [if_pos hopen, if_pos hopen]
      rcases hi : world.legacy animal with ⟨result, rng⟩
      cases result with
      | error fault => exact congrArg (fun tired => (_, World.reseeded tired rng)) tires.symm
      | ok inherited =>
        dsimp only
        have energy : (animal.carried (world.grid.moved s)).energy = animal.energy := rfl
        rw [energy]
        cases splitEnergy (.int animal.energy) (.int percentage) forkYield with
        | error fault => exact congrArg (fun tired => (_, World.reseeded tired rng)) tires.symm
        | ok shares =>
          dsimp only
          rw [shifted_borne h hid ha hopen hi]
    · rw [if_neg hopen, if_neg hopen, ← tires]

/-- Whatever a program asks for, carrying it out follows a shift. -/
theorem follows_perform (hid : id ∈ ids) (request : Request) :
    Follows s (perform id request : Sim G Unit) world := by
  have shifted := h.shifted s
  have inside := Grid.inside_wrapped h.width_pos h.height_pos
  match request with
  | .act .move =>
    rw [Follows, perform, move,
      Attempt.outcome_bind_of_ok (outcome_ahead h.width_pos h.height_pos ha),
      Attempt.outcome_bind_of_ok
        (outcome_ahead shifted.width_pos shifted.height_pos (roster_shifted ha)),
      ← outcome_stepTo_shifted h ha hid (inside animal.front), ← wrapped_front_carried]
    rfl
  | .act .moveBack =>
    rw [Follows, perform, moveBack,
      Attempt.outcome_bind_of_ok (outcome_behind h.width_pos h.height_pos ha),
      Attempt.outcome_bind_of_ok
        (outcome_behind shifted.width_pos shifted.height_pos (roster_shifted ha)),
      ← outcome_stepTo_shifted h ha hid (inside animal.back), ← wrapped_back_carried]
    rfl
  | .act .turnLeft | .act .turnRight => exact follows_changeAnimal fun _ => rfl
  | .act .turnRandom =>
    refine (follows_draw _).bind fun left after _ => ?_
    split <;> exact follows_changeAnimal fun _ => rfl
  | .act .eat =>
    obtain ⟨-, here, -⟩ := h.stands hid ha
    rw [Follows, perform, outcome_eat h hid ha, outcome_eat shifted hid (roster_shifted ha),
      shifted_grazed h here]
  | .act .hit => exact follows_hit h ha
  | .act .fork => exact (follows_fork h ha hid none).bind fun _ _ _ => follows_pure _
  | .fork percentage =>
    exact (follows_fork h ha hid percentage).bind fun _ _ _ => follows_pure _

/-- Going on with a program follows a shift. -/
theorem follows_resume (hid : id ∈ ids) (program : Tree) (held : Option Execution) :
    Follows s (resume id program held : Sim G Resumption) world := by
  rw [Follows, resume, outcome_animal_bind ha, outcome_animal_bind (roster_shifted ha),
    Attempt.outcome_bind_of_ok (Attempt.outcome_get _),
    Attempt.outcome_bind_of_ok (Attempt.outcome_get _), outcome_liftM_bind, outcome_liftM_bind,
    senses_shifted h ha hid]
  cases advance (world.senses animal) program held with
  | error fault => rfl
  | ok outcome =>
    cases outcome with
    | value v => rfl
    | request request waiting =>
      exact (follows_perform h ha hid request).bind fun _ _ _ => follows_pure _

end

/-! ## Ticks -/

variable [Source G]

/-- A turn follows a shift. -/
theorem follows_turn (h : Occupancy ids world) (hid : id ∈ ids) :
    Follows s (turn id : Sim G Unit) world := by
  obtain ⟨animal, ha, -⟩ := h.known id hid
  refine Follows.of_animal ha rfl ?_
  split
  · exact follows_changeAnimal fun _ => rfl
  · refine Follows.tryCatch ?_ fun fault after _ => ?_
    · exact (follows_resume h ha hid _ _).bind fun _ _ _ => follows_changeAnimal fun _ => rfl
    · refine Follows.bind (follows_changeAnimal ?_) fun _ _ _ => follows_throw fault
      exact fun _ => rfl

/-- Turns follow a shift. -/
theorem follows_turns (h : Occupied world) (hids : ids ⊆ world.animals) :
    Follows s (turns ids : Sim G Unit) world := by
  induction ids generalizing world with
  | nil => exact follows_pure _
  | cons id ids ih =>
    have hid := hids List.mem_cons_self
    obtain ⟨animal, ha, -⟩ := h.known id hid
    have decays {middle : World G} (hm : Occupied middle)
        (stays : world.animals ⊆ middle.animals) : Follows s (do
          changeAnimal id fun animal => { animal with energy := animal.energy - Animal.energyDecay }
          turns ids : Sim G Unit) middle := by
      have decay : Happens (.decay id) middle.animals middle middle.animals (middle.changed id
          fun animal => { animal with energy := animal.energy - Animal.energyDecay }) :=
        .decay (stays hid)
      refine Follows.bind (follows_changeAnimal ?_) fun _ after outcome => ?_
      · exact fun _ => rfl
      obtain rfl := (Prod.mk.inj outcome).2
      exact ih (decay.occupancy hm) fun other ho => stays (hids (List.mem_cons_of_mem id ho))
    refine Follows.of_animal ha rfl ?_
    dsimp only
    by_cases alive : animal.isAlive
    · obtain ⟨runs, stays⟩ := runs_turn h hid ha (by simpa [Animal.isAlive] using alive)
      have taken := runs.occupancy h
      rw [if_pos alive]
      refine (follows_turn h hid).bind fun _ after outcome => ?_
      rw [outcome] at taken stays
      exact decays taken stays
    · rw [if_neg alive]
      exact decays h (List.Subset.refl _)

/-- Whether an animal goes follows a shift. -/
theorem follows_isDoomed (ha : world.roster[id]? = some animal) :
    Follows s (isDoomed id : Sim G Bool) world := by
  refine Follows.of_animal ha rfl ?_
  split
  · exact follows_pure _
  · exact Follows.of_get rfl (follows_draw _)

/-- Taking the doomed off the ground follows a shift. -/
theorem follows_sortOut (kept : List Nat) (h : Occupancy (kept ++ ids) world) :
    Follows s (sortOut ids : Sim G (List Nat × Nat)) world := by
  induction ids generalizing kept world with
  | nil => exact follows_pure _
  | cons id ids ih =>
    obtain ⟨animal, ha, -, inside, -⟩ := h.known id (List.mem_append_right _ List.mem_cons_self)
    obtain ⟨doomed, rng, drawn, -⟩ := exists_outcome_isDoomed ha
    refine (follows_isDoomed ha).bind fun found after outcome => ?_
    rw [drawn, Prod.mk.injEq, Except.ok.injEq] at outcome
    obtain ⟨rfl, rfl⟩ := outcome
    have hd : Occupancy (kept ++ id :: ids) (world.reseeded rng) :=
      (happens_reseeded _ world rng).occupancy h
    have hr : (world.reseeded rng).roster[id]? = some animal := ha
    cases doomed with
    | true =>
      rw [if_pos rfl, Follows, outcome_bury_bind hd hr,
        outcome_bury_bind (hd.shifted s) (roster_shifted hr)]
      have buried := shifted_buried (s := s) hd hr inside
      have rest : Follows s (sortOut ids : Sim G (List Nat × Nat))
          ((world.reseeded rng).buried animal) := ih kept (hd.buried hr)
      have counts : Follows s (do
          let sorted ← sortOut ids
          return (sorted.1, sorted.2 + 1) : Sim G (List Nat × Nat))
            ((world.reseeded rng).buried animal) := rest.bind fun _ _ _ => follows_pure _
      rw [Follows, buried] at counts
      exact counts
    | false =>
      rw [if_neg (by decide)]
      rw [List.append_cons] at hd
      exact (ih (kept ++ [id]) hd).bind fun _ _ _ => follows_pure _

/-- The removal of the dead follows a shift. -/
theorem follows_removeDead (h : Occupied world) : Follows s (removeDead : Sim G Nat) world := by
  refine Follows.of_get rfl ?_
  refine (follows_sortOut [] h).bind fun sorted after _ => ?_
  exact (follows_modify rfl).bind fun _ _ _ => follows_pure _

omit [Source G] in
/-- A shift leaves a world without a free cell if there was none before. -/
theorem freeCells_shifted (h : Occupied world) (full : world.freeCells = []) :
    (world.shifted s).freeCells = [] := by
  rw [List.eq_nil_iff_forall_not_mem] at full ⊢
  intro cell free
  obtain ⟨inside, hopen⟩ := mem_freeCells_iff.mp free
  have within : world.grid.Inside cell := inside
  have back := Grid.inside_wrapped h.width_pos h.height_pos
    ⟨cell.x - s.columns, cell.y - s.rows⟩
  rw [← Grid.moved_wrapped_sub (s := s) within, isOpen_shifted h back] at hopen
  exact full _ (mem_freeCells_iff.mpr ⟨back, hopen⟩)

/-- Filling the population up follows a shift if nobody spawns. -/
theorem follows_fillPopulation (h : Occupied world)
    (nobody : ∀ spawned after, fillPopulation.outcome world = (.ok spawned, after) → spawned = 0) :
    Follows s (fillPopulation : Sim G Nat) world := by
  obtain ⟨spawned, after, outcome, known⟩ := exists_outcome_fillPopulation world
  obtain ⟨-, enough⟩ := known (nobody spawned after outcome)
  have still : (world.shifted s).settings.minPopulation ≤ (world.shifted s).animals.length ∨
      (world.shifted s).freeCells = [] :=
    enough.imp id (freeCells_shifted h)
  rw [Follows, outcome_fillPopulation_of_enough enough, outcome_fillPopulation_of_enough still]

omit [Source G] in
/-- A report follows a shift. -/
theorem follows_reportTick (removed spawned : Nat) :
    Follows s (reportTick removed spawned : Sim G Unit) world := by
  rw [reportTick]
  split
  · exact Follows.of_get rfl (follows_modify rfl)
  · exact follows_pure _

/-- The beginning of a tick follows a shift if no blob falls. -/
theorem follows_beginTick
    (dry : (Draw.chance world.settings.blobChance world.rng : Bool × G).1 = false) :
    Follows s (beginTick : Sim G (List Nat × Int)) world := by
  refine Follows.bind (follows_modify rfl) fun _ counted outcome => ?_
  obtain rfl := (Prod.mk.inj outcome).2
  refine Follows.of_get rfl ?_
  refine (follows_draw _).bind fun falls after outcome => ?_
  rw [outcome_draw, Attempt.outcome_draw] at outcome
  have clear : falls = false := (Except.ok.inj (Prod.mk.inj outcome).1).symm.trans dry
  rw [clear]
  exact follows_pure _

/-- The end of a tick follows a shift if nobody spawns. -/
theorem follows_endTick (h : Occupied world)
    (nobody : ∀ ended after, endTick.outcome world = (.ok ended, after) → ended.2 = 0) :
    Follows s (endTick : Sim G (Nat × Nat)) world := by
  obtain ⟨removed, middle, outcome, runs, -⟩ := exists_outcome_removeDead h
  refine (follows_removeDead h).bind fun found after same => ?_
  rw [outcome, Prod.mk.injEq, Except.ok.injEq] at same
  obtain ⟨rfl, rfl⟩ := same
  refine Follows.bind (follows_modify rfl) fun _ counted same => ?_
  have counts := Attempt.outcome_modify
    (fun world : World G => { world with deaths := world.deaths + removed }) middle
  rw [counts] at same
  obtain rfl := (Prod.mk.inj same).2
  have ground : Occupied { middle with deaths := middle.deaths + removed } :=
    (runs.occupancy h).congr rfl rfl rfl rfl
  refine Follows.bind (follows_fillPopulation ground fun spawned last fills => ?_)
    fun spawned last _ => (follows_reportTick removed spawned).bind fun _ _ _ => follows_pure _
  obtain ⟨journal, reported⟩ := exists_outcome_reportTick removed spawned last
  refine nobody (removed, spawned) { last with journal } ?_
  rw [endTick, Attempt.outcome_bind_of_ok outcome, Attempt.outcome_bind_of_ok counts,
    Attempt.outcome_bind_of_ok fills, Attempt.outcome_bind_of_ok reported]
  rfl

/-- A step follows a shift if no blob falls and nobody spawns in it. -/
theorem follows_step (h : Occupied world)
    (dry : (Draw.chance world.settings.blobChance world.rng : Bool × G).1 = false)
    (nobody : ∀ written after, ledger.outcome world = (.ok written, after) →
      written.spawned = 0) : Follows s (step : Sim G Unit) world := by
  obtain ⟨begins, known⟩ := advances_beginTick h
  have written : Follows s (ledger : Sim G Ledger) world := by
    refine (follows_beginTick dry).bind fun begun middle begin => ?_
    obtain ⟨ids, animals⟩ := known begun middle begin
    have ground := begins.occupancy_of_eq h begin
    have listed : begun.1 ⊆ middle.animals := by
      rw [ids, animals]
      exact List.Subset.refl _
    refine Follows.bind (follows_turns ground listed) fun _ last turn => ?_
    have turned := (advances_turns ground listed).occupancy_of_eq ground turn
    refine Follows.bind (follows_endTick turned fun ended after ends => ?_)
      fun _ _ _ => follows_pure _
    refine nobody ⟨begun.2, ended.1, ended.2⟩ after ?_
    rw [ledger, Attempt.outcome_bind_of_ok begin, Attempt.outcome_bind_of_ok turn,
      Attempt.outcome_bind_of_ok ends]
    rfl
  rw [step_eq]
  exact written.bind fun _ _ _ => follows_pure _

/-- The torus has no special place. A shift of an occupied world moves every cell with what it holds
and with the animal on it, and leaves an occupied world. Turns follow the shift, also when they stop
with a fault, and so does every step in which no blob falls and nobody spawns. -/
theorem shift_commutes (h : Occupied world) (s : Shift) :
    (Occupied (world.shifted s) ∧ ∀ cell, world.grid.Inside cell →
        (world.shifted s).grid.valueAt (world.grid.moved s cell) = world.grid.valueAt cell ∧
          (world.shifted s).occupied[world.grid.moved s cell]? = world.occupied[cell]?) ∧
      (∀ id ∈ world.animals, Follows s (turn id) world) ∧
      ((Draw.chance world.settings.blobChance world.rng : Bool × G).1 = false →
        (∀ written after, ledger.outcome world = (.ok written, after) → written.spawned = 0) →
          Follows s step world) :=
  ⟨⟨h.shifted s, fun _ inside => ⟨valueAt_shifted h inside, h.getElem?_moved s inside⟩⟩,
    fun _ hid => follows_turn h hid, fun dry nobody => follows_step h dry nobody⟩

/-- A small world of two animals, one of which is hit by the other over the edge. Nobody spawns. -/
def couple (rng : Generator) : World Generator :=
  let ground : World Generator :=
    { grid := Grid.empty 2 1, rng, settings := { minPopulation := 0 } }
  (ground.settled { cell := ⟨0, 0⟩, wait := 1 }).settled
    { cell := ⟨1, 0⟩, program := Tree.apply (.action .hit) [] }

/-- The two animals occupy their world. -/
theorem occupied_couple (rng : Generator) : Occupied (couple rng) := by
  have empty : World.empty 2 1 rng { minPopulation := 0 } =
      .ok { grid := Grid.empty 2 1, rng, settings := { minPopulation := 0 } } := rfl
  have habitable : Habitable 2 1 { minPopulation := 0 } :=
    ⟨by decide, by decide, by decide, by decide⟩
  have ground := occupied_of_empty habitable empty
  have waiting : ({ cell := ⟨0, 0⟩, wait := 1 } : Animal).Sound :=
    ⟨by decide, by decide, by decide, by decide, by decide⟩
  have hitting : ({ cell := ⟨1, 0⟩, program := Tree.apply (.action .hit) [] } : Animal).Sound :=
    ⟨by decide, by decide, by decide, by decide, by decide⟩
  have left : (Grid.empty 2 1).Inside ⟨0, 0⟩ := ⟨by decide, by decide, by decide, by decide⟩
  have right : (Grid.empty 2 1).Inside ⟨1, 0⟩ := ⟨by decide, by decide, by decide, by decide⟩
  exact (ground.place waiting left rfl).place hitting right rfl

/-- A hit over the edge follows a shift after which it does not cross the edge, and so does the step
in which it falls. -/
theorem shift_commutes_couple :
    let world := couple (Generator.ofSeed 7 (List.replicate 3 (.finite (1 / 2))))
    Occupied world ∧ (world.shifted ⟨3, 2⟩).occupied[(⟨0, 0⟩ : Cell)]? = some 1 ∧
      ((turn 1).outcome world).2.roster[0]?.map Animal.energy = some Animal.hitEnergy ∧
      Follows ⟨3, 2⟩ (turn 1) world ∧ Follows ⟨3, 2⟩ step world := by
  intro world
  have occupied : Occupied world := occupied_couple _
  have hits : ((turn 1).outcome world).2.roster[0]?.map Animal.energy = some Animal.hitEnergy := by
    decide +kernel
  have dry : (Draw.chance world.settings.blobChance world.rng : Bool × Generator).1 = false := by
    decide +kernel
  have counted : (ledger.outcome world).1.toOption.map Ledger.spawned = some 0 := by
    decide +kernel
  have nobody : ∀ written after, ledger.outcome world = (.ok written, after) →
      written.spawned = 0 := by
    intro written after outcome
    rw [outcome] at counted
    exact Option.some.inj counted
  obtain ⟨⟨-, moves⟩, turns, steps⟩ := shift_commutes occupied ⟨3, 2⟩
  have right : world.grid.Inside ⟨1, 0⟩ := ⟨by decide, by decide, by decide, by decide⟩
  have reached : world.grid.moved ⟨3, 2⟩ ⟨1, 0⟩ = ⟨0, 0⟩ := by decide
  have there : world.occupied[(⟨1, 0⟩ : Cell)]? = some 1 := by decide
  have goes := (moves ⟨1, 0⟩ right).2
  rw [reached, there] at goes
  exact ⟨occupied, goes, hits, turns 1 (by decide), steps dry nobody⟩

end Vivarium.World
