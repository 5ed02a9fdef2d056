import Vivarium.Proofs.Program.Plain
import Vivarium.Proofs.World.Reachable
import Vivarium.Proofs.World.Recursion

/-!
# Resumptions refine the recursion

A program that is resumed again and again, while the environment does to the world what it likes
between two resumptions, reads the same, does the same and comes to the same as the recursion over
its tree in which the environment follows every action.
-/

namespace Vivarium.World

variable {G : Type} [Source G]

/-- Whether an animal is in the list of an occupied world. -/
structure Resident (id : Nat) (world : World G) : Prop where
  occupied : Occupied world
  listed : id ∈ world.animals

/-- Whether what the environment does leaves an animal resident. -/
def Environment.Admits (env : Environment G) (id : Nat) : Prop :=
  ∀ notes world, Resident id world → Resident id (env notes world)

/-- How a program of an animal is resumed, from what is held at first up to its end: what it comes
to, and the scene that it leaves. -/
inductive Plays (id : Nat) (program : Tree) (env : Environment G) :
    Scene G → Option Execution → Except Fault Atom → Scene G → Prop where
  /-- A resumption finds the end of the program. Sensors are read, and the world stays as it is. -/
  | completed {world : World G} {notes readings : List Note} {held : Option Execution}
    {animal : Animal} {v : Atom} (ha : world.roster[id]? = some animal)
    (ho : (observeAdvance (world.senses animal) program held).outcome notes =
      (.ok (.value v), notes ++ readings))
    (hg : ∀ entry ∈ readings, (world.senses animal).Gives entry)
    (hr : (resume id program held).outcome world = (.ok ⟨some v, none, none⟩, world)) :
    Plays id program env ⟨world, notes⟩ held (.ok v) ⟨world, notes ++ readings⟩
  /-- A resumption reads sensors, carries out one request, which is all that it does to the world,
  and is suspended with the action. The environment follows, and then further resumptions. -/
  | suspended {world after : World G} {notes readings : List Note} {held : Option Execution}
    {animal : Animal} {request : Request} {waiting : List Frame} {result : Except Fault Atom}
    {final : Scene G} (ha : world.roster[id]? = some animal)
    (ho : (observeAdvance (world.senses animal) program held).outcome notes =
      (.ok (.request request waiting), notes ++ readings))
    (hg : ∀ entry ∈ readings, (world.senses animal).Gives entry)
    (hp : (perform id request).outcome world = (.ok (), after))
    (hr : (resume id program held).outcome world =
      (.ok ⟨none, some request.action, some (.suspended waiting)⟩, after))
    (rest : Plays id program env
      ⟨env (notes ++ readings ++ [.act request]) after, notes ++ readings ++ [.act request]⟩
      (some (.suspended waiting)) result final) :
    Plays id program env ⟨world, notes⟩ held result final
  /-- A fork that a resumption carries out stops with a fault, and so does the resumption. -/
  | failed {world after : World G} {notes readings : List Note} {held : Option Execution}
    {animal : Animal} {request : Request} {waiting : List Frame} {fault : Fault}
    (ha : world.roster[id]? = some animal)
    (ho : (observeAdvance (world.senses animal) program held).outcome notes =
      (.ok (.request request waiting), notes ++ readings))
    (hg : ∀ entry ∈ readings, (world.senses animal).Gives entry)
    (hf : request.action = .fork)
    (hp : (perform id request).outcome world = (.error fault, after))
    (hr : (resume id program held).outcome world = (.error fault, after)) :
    Plays id program env ⟨world, notes⟩ held (.error fault) ⟨after, notes ++ readings⟩

variable {id : Nat} {program : Tree} {env : Environment G} {world after : World G}
  {held : Option Execution} {animal : Animal}

/-! ## A resumption -/

/-- A resumption comes to the value that the evaluation comes to. -/
theorem outcome_resume_of_value (ha : world.roster[id]? = some animal) {v : Atom}
    (h : advance (world.senses animal) program held = .ok (.value v)) :
    (resume id program held).outcome world = (.ok ⟨some v, none, none⟩, world) := by
  rw [resume, outcome_animal_bind ha, Attempt.outcome_bind_of_ok (Attempt.outcome_get world),
    outcome_liftM_bind, h]
  rfl

/-- A resumption stops with the fault of its evaluation. -/
theorem outcome_resume_of_error (ha : world.roster[id]? = some animal) {fault : Fault}
    (h : advance (world.senses animal) program held = .error fault) :
    (resume id program held).outcome world = (.error fault, world) := by
  rw [resume, outcome_animal_bind ha, Attempt.outcome_bind_of_ok (Attempt.outcome_get world),
    outcome_liftM_bind, h]

/-- A resumption whose evaluation asks for an action carries it out. -/
theorem outcome_resume_of_request (ha : world.roster[id]? = some animal) {request : Request}
    {waiting : List Frame}
    (h : advance (world.senses animal) program held = .ok (.request request waiting)) :
    (resume id program held).outcome world =
      match (perform id request).outcome world with
      | (.ok _, after) => (.ok ⟨none, some request.action, some (.suspended waiting)⟩, after)
      | (.error fault, after) => (.error fault, after) := by
  rw [resume, outcome_animal_bind ha, Attempt.outcome_bind_of_ok (Attempt.outcome_get world),
    outcome_liftM_bind, h]
  dsimp only
  rw [Attempt.outcome_bind]
  generalize (perform id request).outcome world = performed
  obtain ⟨result, after⟩ := performed
  cases result <;> rfl

/-- The turn of an animal that waits. -/
theorem outcome_turn_of_waits (ha : world.roster[id]? = some animal) (waits : 0 < animal.wait) :
    (turn id).outcome world =
      (.ok (), world.changed id fun animal => { animal with wait := animal.wait - 1 }) := by
  rw [turn, outcome_animal_bind ha, if_pos waits]
  rfl

/-- The turn of an animal that is ready is a resumption, of which it keeps what is held. -/
theorem outcome_turn_of_resume (ha : world.roster[id]? = some animal) (ready : animal.wait ≤ 0)
    {resumption : Resumption}
    (resumed : (resume id animal.program animal.execution).outcome world =
      (.ok resumption, after)) :
    (turn id).outcome world =
      (.ok (), after.changed id fun animal => { animal with execution := resumption.held }) := by
  rw [turn, outcome_animal_bind ha, if_neg (Int.not_lt.mpr ready), Attempt.outcome_tryCatch,
    Attempt.outcome_bind_of_ok resumed]
  rfl

/-- The turn of an animal whose program comes to its end. -/
theorem outcome_turn_of_value (ha : world.roster[id]? = some animal) (ready : animal.wait ≤ 0)
    {v : Atom}
    (h : advance (world.senses animal) animal.program animal.execution = .ok (.value v)) :
    (turn id).outcome world =
      (.ok (), world.changed id fun animal => { animal with execution := none }) :=
  outcome_turn_of_resume ha ready (outcome_resume_of_value ha h)

/-- The turn of an animal whose program asks for an action that can be carried out. -/
theorem outcome_turn_of_request (ha : world.roster[id]? = some animal) (ready : animal.wait ≤ 0)
    {request : Request} {waiting : List Frame}
    (h : advance (world.senses animal) animal.program animal.execution =
      .ok (.request request waiting))
    (hp : (perform id request).outcome world = (.ok (), after)) :
    (turn id).outcome world =
      (.ok (), after.changed id fun animal =>
        { animal with execution := some (.suspended waiting) }) := by
  have resumed := outcome_resume_of_request ha h
  rw [hp] at resumed
  exact outcome_turn_of_resume ha ready resumed

/-- A request that is carried out is noted, and the environment follows. -/
theorem outcome_carryOut (request : Request) (world : World G) (notes : List Note) :
    (carryOut id env request).outcome ⟨world, notes⟩ =
      match (perform id request).outcome world with
      | (.ok _, after) =>
        (.ok .nil, ⟨env (notes ++ [.act request]) after, notes ++ [.act request]⟩)
      | (.error fault, after) => (.error fault, ⟨after, notes⟩) := by
  rw [carryOut, Attempt.outcome_bind, onWorld, Attempt.outcome_onPart]
  dsimp only
  generalize (perform id request).outcome world = performed
  obtain ⟨result, after⟩ := performed
  cases result <;> rfl

omit [Source G] in
/-- The cells that a resident senses can be read. -/
theorem Resident.sound (h : Resident id world) (ha : world.roster[id]? = some animal) :
    (world.senses animal).Sound := by
  obtain ⟨-, inside, -⟩ := h.occupied.stands h.listed ha
  have hw := h.occupied.width_pos
  have hh := h.occupied.height_pos
  constructor
  · exact ⟨_, Grid.read_of_inside inside⟩
  · refine ⟨world.grid.valueAt (world.grid.wrapped animal.front), ?_⟩
    rw [senses, Grid.wrap_eq hw hh]
    exact Grid.read_of_inside (Grid.inside_wrapped hw hh _)

/-- What a resident does leaves it resident. -/
theorem Resident.perform (h : Resident id world) (request : Request) :
    Resident id ((World.perform id request).outcome world).2 := by
  obtain ⟨animal, ha, -⟩ := h.occupied.known id h.listed
  have done := deed_perform h.occupied h.listed ha request
  exact ⟨done.occupancy h.occupied h.listed ha, done.subset h.listed⟩

/-- Only a fork of a resident can fail. -/
theorem Resident.action_of_error (h : Resident id world) {request : Request} {fault : Fault}
    (hp : (World.perform id request).outcome world = (.error fault, after)) :
    request.action = .fork := by
  obtain ⟨animal, ha, -⟩ := h.occupied.known id h.listed
  have hw := h.occupied.width_pos
  have hh := h.occupied.height_pos
  have steps (cell : Cell) :
      (stepTo id (world.grid.wrapped cell)).outcome world ≠ (.error fault, after) := by
    rw [outcome_stepTo h.occupied h.listed ha (Grid.inside_wrapped hw hh cell)]
    simp
  match request with
  | .act .move =>
    rw [World.perform, move, Attempt.outcome_bind_of_ok (outcome_ahead hw hh ha)] at hp
    exact absurd hp (steps animal.front)
  | .act .moveBack =>
    rw [World.perform, moveBack, Attempt.outcome_bind_of_ok (outcome_behind hw hh ha)] at hp
    exact absurd hp (steps animal.back)
  | .act .turnLeft | .act .turnRight => simp [World.perform, outcome_changeAnimal] at hp
  | .act .turnRandom => simp [World.perform, outcome_turnRandom] at hp
  | .act .eat => simp [World.perform, outcome_eat h.occupied h.listed ha] at hp
  | .act .hit =>
    rw [World.perform, outcome_hit h.occupied ha] at hp
    cases hv : world.occupied[world.grid.wrapped animal.front]? with
    | none => simp [hv] at hp
    | some victim =>
      obtain ⟨-, target, ht, -⟩ := (h.occupied.map _ _).mp hv
      simp [hv, ht] at hp
  | .act .fork | .fork _ => rfl

/-- What an observed evaluation comes to is finished by the rest of the recursion. -/
theorem outcome_remaining (ha : world.roster[id]? = some animal) {notes later : List Note}
    {outcome : Outcome}
    (ho : (observeAdvance (world.senses animal) program held).outcome notes =
      (.ok outcome, later)) :
    (remaining id env program held).outcome ⟨world, notes⟩ =
      (finish id env outcome).outcome ⟨world, later⟩ := by
  rw [simulates_remaining ha program notes, outcome_watch_bind, ho]

omit [Source G] in
/-- The evaluation of a plain program of a resident does not fail, and reads its senses. -/
theorem exists_observeAdvance (hp : Plain program) (h : Resident id world)
    (hh : Execution.Plain held) (notes : List Note) :
    ∃ animal outcome readings, world.roster[id]? = some animal ∧
      advance (world.senses animal) program held = .ok outcome ∧ outcome.Plain ∧
      (observeAdvance (world.senses animal) program held).outcome notes =
        (.ok outcome, notes ++ readings) ∧
      ∀ entry ∈ readings, (world.senses animal).Gives entry := by
  obtain ⟨animal, ha, -⟩ := h.occupied.known id h.listed
  obtain ⟨outcome, advanced, plain⟩ := comes_advance (h.sound ha) hp hh
  have shown :
      ((observeAdvance (world.senses animal) program held).outcome notes).1 = .ok outcome :=
    advanced ▸ shows_advance program held notes
  have start : (world.senses animal).Extends notes notes :=
    ⟨[], (List.append_nil notes).symm, nofun⟩
  obtain ⟨readings, read, gives⟩ := keeps_extends_advance program held notes start
  exact ⟨animal, outcome, readings, ha, advanced, plain, Prod.ext shown read, gives⟩

/-! ## All resumptions -/

/-- Resumptions come to what is left of the recursion. -/
theorem Plays.outcome_eq {scene final : Scene G} {result : Except Fault Atom}
    (h : Plays id program env scene held result final) :
    (remaining id env program held).outcome scene = (result, final) := by
  induction h with
  | completed ha ho hg hr =>
    rw [outcome_remaining ha ho]
    rfl
  | suspended ha ho hg hp hr rest ih =>
    rw [outcome_remaining ha ho, finish, Attempt.outcome_bind, outcome_carryOut, hp]
    exact ih
  | failed ha ho hg hf hp hr =>
    rw [outcome_remaining ha ho, finish, Attempt.outcome_bind, outcome_carryOut, hp]

/-- Resumptions of a plain program come to an end. The induction is on a bound for the number of
notes that are still to be made. -/
theorem exists_plays (hp : Plain program) (he : env.Admits id) (count : Nat) {notes : List Note}
    (h : Resident id world) (hh : Execution.Plain held)
    (bound : ((remaining id env program held).outcome ⟨world, notes⟩).2.notes.length <
      notes.length + count) :
    ∃ result final, Plays id program env ⟨world, notes⟩ held result final := by
  induction count generalizing world notes held with
  | zero =>
    have stays : Remembers notes ((remaining id env program held).outcome ⟨world, notes⟩).2 :=
      keeps_remembers_remaining program held ⟨world, notes⟩ (List.prefix_refl notes)
    have longer := stays.length_le
    omega
  | succ count ih =>
    obtain ⟨animal, outcome, readings, ha, advanced, plain, observed, gives⟩ :=
      exists_observeAdvance hp h hh notes
    cases outcome with
    | value v => exact ⟨_, _, .completed ha observed gives (outcome_resume_of_value ha advanced)⟩
    | request request waiting =>
      have resumed := outcome_resume_of_request ha advanced
      have stays := h.perform request
      rw [outcome_remaining ha observed, finish, Attempt.outcome_bind, outcome_carryOut] at bound
      generalize hq : (perform id request).outcome world = performed at *
      obtain ⟨result, after⟩ := performed
      cases result with
      | error fault =>
        exact ⟨_, _, .failed ha observed gives (h.action_of_error hq) hq resumed⟩
      | ok _ =>
        have room : notes.length + (count + 1) ≤
            (notes ++ readings ++ [Note.act request]).length + count := by
          simp only [List.length_append, List.length_singleton]
          omega
        have left : Execution.Plain (some (.suspended waiting)) := plain.2
        obtain ⟨result, final, rest⟩ := ih (he _ after stays) left (Nat.lt_of_lt_of_le bound room)
        exact ⟨result, final, .suspended ha observed gives hq resumed rest⟩

/-- Resumptions refine the recursion. For a plain program of a resident, started anew, and an
environment that leaves the animal resident, the resumptions come to an end: none fails but by a
fork that it carries out, and together they read, do and come to what the recursion does, in the
same order and in the same world. What an observed resumption comes to is what it comes to. -/
theorem resumptions_refine_recursion (hp : Plain program) (he : env.Admits id)
    (h : Resident id world) :
    (∀ senses held, Shows (observeAdvance senses program held) (advance senses program held)) ∧
      (∃ result final, Plays id program env ⟨world, []⟩ none result final) ∧
      ∀ result final, Plays id program env ⟨world, []⟩ none result final ↔
        (run id env program).outcome ⟨world, []⟩ = (result, final) := by
  have ends : ∃ result final, Plays id program env ⟨world, []⟩ none result final := by
    refine exists_plays hp he
      (((remaining id env program none).outcome ⟨world, []⟩).2.notes.length + 1) h trivial ?_
    rw [List.length_nil]
    omega
  refine ⟨fun senses held => shows_advance program held, ends, fun result final => ?_⟩
  constructor
  · exact Plays.outcome_eq
  · intro outcome
    obtain ⟨found, last, plays⟩ := ends
    have same := plays.outcome_eq
    rw [remaining, outcome, Prod.mk.injEq] at same
    rwa [same.1, same.2]

/-- The environment in which an animal loses energy after each of its actions. -/
def tiring (id : Nat) : Environment G := fun _ world =>
  world.changed id fun animal => { animal with energy := animal.energy - Animal.energyDecay }

/-- An animal that loses energy stays resident. -/
theorem admits_tiring : (tiring id : Environment G).Admits id := by
  intro _ world h
  have decays : Happens (.decay id) world.animals world world.animals (tiring id [] world) :=
    .decay h.listed
  exact ⟨decays.occupancy h.occupied, h.listed⟩

/-- An animal on a small empty world turns to the left twice by a loop, and loses energy after each
of the turns. -/
theorem resumptions_refine_recursion_turns :
    ∃ world : World Generator, Resident 0 world ∧
      ∃ final, final.notes = [.act (.act .turnLeft), .act (.act .turnLeft)] ∧
        Plays 0 (Tree.apply (.control .loop) [Tree.int 2, Tree.apply (.action .turnLeft) []])
          (tiring 0) ⟨world, []⟩ none (.ok .nil) final := by
  have resident (rng : Generator) : Resident 0
      (({ grid := Grid.empty 3 2, rng, settings := {} } : World Generator).settled
        { cell := ⟨0, 0⟩ }) := by
    have empty : World.empty 3 2 rng {} = .ok { grid := Grid.empty 3 2, rng, settings := {} } := rfl
    have ground := occupied_of_empty (habitable_default (by decide) (by decide)) empty
    have sound : ({ cell := ⟨0, 0⟩ } : Animal).Sound :=
      ⟨by decide, by decide, by decide, by decide, by decide⟩
    have inside : (Grid.empty 3 2).Inside ⟨0, 0⟩ :=
      ⟨by decide, by decide, by decide, by decide⟩
    exact ⟨ground.place sound inside rfl, List.mem_singleton_self 0⟩
  have plain :
      Plain (Tree.apply (.control .loop) [Tree.int 2, Tree.apply (.action .turnLeft) []]) := by
    refine .form _ fun t ht => ?_
    simp only [List.mem_cons, List.not_mem_nil, or_false] at ht
    rcases ht with rfl | rfl
    · exact .atom trivial
    · exact .form _ nofun
  have turns (world : World Generator) : ∃ final,
      final.notes = [.act (.act .turnLeft), .act (.act .turnLeft)] ∧
        (run 0 (tiring 0) (Tree.apply (.control .loop)
          [Tree.int 2, Tree.apply (.action .turnLeft) []])).outcome ⟨world, []⟩ =
            (.ok .nil, final) := ⟨_, rfl, rfl⟩
  obtain ⟨final, notes, outcome⟩ := turns _
  exact ⟨_, resident (Generator.ofSeed 7), final, notes,
    ((resumptions_refine_recursion plain admits_tiring (resident _)).2.2 _ final).mpr outcome⟩

end Vivarium.World
