import Vivarium.Proofs.World.Deed

/-!
# Events

What can happen to a world and to the animals on its ground while a tick passes, one event at a
time. A passage is a run of events. Every part of a tick is a passage, also when a fault ends it
early, so what every event keeps holds at every moment. Events keep the occupancy.
-/

namespace Vivarium.World

variable {G : Type}

/-- The world with an animal put on its cell, as the last to take its turn. -/
def settled (world : World G) (newcomer : Animal) : World G :=
  { world with
    roster := world.roster.push newcomer
    animals := world.animals ++ [world.roster.size]
    occupied := world.occupied.insert newcomer.cell world.roster.size }

/-- The world with an animal taken off the ground, where its energy is left as food. -/
def buried (world : World G) (animal : Animal) : World G :=
  { world.filled animal.cell animal.energy with
    occupied := world.occupied.erase animal.cell }

/-- The kinds of events, with the animal that each is about. -/
inductive Event where
  /-- Nothing that concerns the ground or an animal. -/
  | note
  /-- Food fell. -/
  | blob (added : Int)
  /-- An animal waited. -/
  | pause (id : Nat)
  /-- An animal acted. -/
  | deed (id : Nat)
  /-- An animal put its evaluation away. -/
  | hold (id : Nat)
  /-- An animal lost energy by the passing of time. -/
  | decay (id : Nat)
  /-- An animal was removed. -/
  | removal (id : Nat)
  /-- A new lineage was spawned. -/
  | spawn (id : Nat)

/-- The energy that an event brings into a world from outside, at the most. -/
def Event.gain : Event → Int
  | .blob added => added
  | .spawn _ => startEnergy
  | _ => 0

/-- The energy that some events bring into a world. -/
def gains (events : List Event) : Int :=
  (events.map Event.gain).sum

@[simp] theorem gains_nil : gains [] = 0 := rfl

@[simp] theorem gains_cons (event : Event) (events : List Event) :
    gains (event :: events) = event.gain + gains events := rfl

@[simp] theorem gains_append (first second : List Event) :
    gains (first ++ second) = gains first + gains second := by
  rw [gains, List.map_append, List.sum_append]
  rfl

section

variable [Source G]

/-- How an event leads from the animals on the ground and the world before it to those after it. -/
inductive Happens : Event → List Nat → World G → List Nat → World G → Prop where
  /-- The source of random numbers, the counters, the list and the journal may change. -/
  | note {ids : List Nat} {world after : World G} (grid : after.grid = world.grid)
    (settings : after.settings = world.settings) (roster : after.roster = world.roster)
    (occupied : after.occupied = world.occupied) : Happens .note ids world ids after
  /-- The ground is tended, and what was added is the change of plant mass. -/
  | blob {ids : List Nat} {world : World G} {grid : Grid} {added : Int}
    (tended : Grid.Tended world.settings.maxFood world.grid grid)
    (mass : grid.plantMass = world.grid.plantMass + added) :
    Happens (.blob added) ids world ids { world with grid }
  /-- One tick of waiting is over. -/
  | pause {ids : List Nat} {world : World G} {id : Nat} {animal : Animal} (hid : id ∈ ids)
    (ha : world.roster[id]? = some animal) (waits : 0 < animal.wait) :
    Happens (.pause id) ids world ids
      (world.changed id fun animal => { animal with wait := animal.wait - 1 })
  /-- Only who lives acts. -/
  | deed {world after : World G} {id : Nat} {animal : Animal} (hid : id ∈ world.animals)
    (ha : world.roster[id]? = some animal) (alive : 1 ≤ animal.energy)
    (hd : Deed world id animal after) : Happens (.deed id) world.animals world after.animals after
  /-- The evaluation is the only thing that changes. -/
  | hold {ids : List Nat} {world : World G} {id : Nat} (hid : id ∈ ids)
    (put : Option Execution → Option Execution) :
    Happens (.hold id) ids world ids
      (world.changed id fun animal => { animal with execution := put animal.execution })
  /-- The energy of one tick is lost. -/
  | decay {ids : List Nat} {world : World G} {id : Nat} (hid : id ∈ ids) :
    Happens (.decay id) ids world ids
      (world.changed id fun animal => { animal with energy := animal.energy - Animal.energyDecay })
  /-- The animal leaves the ground. -/
  | removal {kept rest : List Nat} {world : World G} {id : Nat} {animal : Animal}
    (ha : world.roster[id]? = some animal) :
    Happens (.removal id) (kept ++ id :: rest) world (kept ++ rest) (world.buried animal)
  /-- An animal with the energy of a new lineage comes onto an open cell. -/
  | spawn {ids : List Nat} {world : World G} {newcomer : Animal} (sound : newcomer.Sound)
    (inside : world.grid.Inside newcomer.cell) (hopen : world.isOpen newcomer.cell)
    (energy : newcomer.energy = startEnergy) :
    Happens (.spawn world.roster.size) ids world (ids ++ [world.roster.size])
      (world.settled newcomer)

/-- How a run of events leads from the animals on the ground and the world before it to those after
it. -/
inductive Passes : List Event → List Nat → World G → List Nat → World G → Prop where
  /-- Nothing happens. -/
  | nil {ids : List Nat} {world : World G} : Passes [] ids world ids world
  /-- One event happens, and then others. -/
  | cons {event : Event} {events : List Event} {ids ids' ids'' : List Nat}
    {world middle after : World G} (first : Happens event ids world ids' middle)
    (rest : Passes events ids' middle ids'' after) :
    Passes (event :: events) ids world ids'' after

variable {event : Event} {events more : List Event} {ids ids' ids'' : List Nat}
  {world middle after : World G}

/-- One event is a run. -/
theorem Happens.passes (h : Happens event ids world ids' after) :
    Passes [event] ids world ids' after :=
  .cons h .nil

/-- Drawing is an event. -/
theorem happens_reseeded (ids : List Nat) (world : World G) (rng : G) :
    Happens .note ids world ids (world.reseeded rng) :=
  .note rfl rfl rfl rfl

/-- One run after another is a run. -/
theorem Passes.append (first : Passes events ids world ids' middle)
    (second : Passes more ids' middle ids'' after) :
    Passes (events ++ more) ids world ids'' after := by
  induction first with
  | nil => exact second
  | cons event _ ih => exact .cons event (ih second)

omit [Source G] in
/-- Who is buried leaves the occupancy. -/
theorem Occupancy.buried {kept rest : List Nat} {id : Nat} {animal : Animal}
    (h : Occupancy (kept ++ id :: rest) world) (ha : world.roster[id]? = some animal) :
    Occupancy (kept ++ rest) (world.buried animal) := by
  obtain ⟨-, inside, -⟩ := h.stands (List.mem_append_right _ List.mem_cons_self) ha
  have deposit := (h.vacated ha).tended (tended_filled inside h.maxFood_nonneg animal.energy)
  rw [World.buried, filled_eq]
  exact deposit

/-- An event keeps the occupancy. -/
theorem Happens.occupancy (he : Happens event ids world ids' after) (h : Occupancy ids world) :
    Occupancy ids' after := by
  cases he with
  | note grid settings roster occupied => exact h.congr grid settings roster occupied
  | blob tended mass => exact h.tended tended
  | pause hid ha waits =>
    refine h.changed _ fun animal found => ⟨rfl, fun sound => ?_⟩
    rw [ha, Option.some.injEq] at found
    subst found
    have bound := sound.wait_le
    exact sound.withWait _ _ _ _ (by omega) (by omega)
  | deed hid ha alive hd => exact hd.occupancy h hid ha
  | hold hid put =>
    exact h.changed _ fun animal _ => ⟨rfl, fun sound =>
      sound.withWait animal.cell animal.energy animal.wait _ sound.wait_nonneg sound.wait_le⟩
  | decay hid =>
    exact h.changed _ fun animal _ => ⟨rfl, fun sound =>
      sound.withWait animal.cell _ animal.wait animal.execution sound.wait_nonneg sound.wait_le⟩
  | removal ha => exact h.buried ha
  | spawn sound inside hopen energy => exact h.place sound inside hopen

/-- A run of events keeps the occupancy. -/
theorem Passes.occupancy (hp : Passes events ids world ids' after) (h : Occupancy ids world) :
    Occupancy ids' after := by
  induction hp with
  | nil => exact h
  | cons event _ ih => exact ih (event.occupancy h)

/-! ## Attempts that come about by events -/

/-- An attempt comes to its result by some events, and if that is a value, these bring the energy
that the value tells. -/
def Advances {α : Type} (gain : α → Int) (world : World G) (result : Except Fault α × World G) :
    Prop :=
  ∃ events, Passes events world.animals world result.2.animals result.2 ∧
    ∀ a, result.1 = .ok a → gains events = gain a

namespace Advances

variable {α β : Type} {gain : α → Int} {total : β → Int}

/-- A value is reached by no events. -/
theorem pure {a : α} (h : gain a = 0) : Advances gain world (.ok a, world) :=
  ⟨[], .nil, fun b hb => by cases hb; exact h.symm⟩

/-- What is left by events is occupied. -/
theorem occupancy {result : Except Fault α × World G} (ha : Advances gain world result)
    (h : Occupancy world.animals world) : Occupancy result.2.animals result.2 := by
  obtain ⟨events, passes, -⟩ := ha
  exact passes.occupancy h

/-- What is left by an attempt is occupied. -/
theorem occupancy_of_eq {attempt : Sim G α} {result : Except Fault α}
    (ha : Advances gain world (attempt.outcome world)) (h : Occupancy world.animals world)
    (he : attempt.outcome world = (result, after)) : Occupancy after.animals after := by
  have kept := ha.occupancy h
  rwa [he] at kept

/-- The events of two attempts in a row follow each other. -/
theorem bind {first : Sim G α} {next : α → Sim G β} (h : Occupancy world.animals world)
    (hf : Advances gain world (first.outcome world))
    (hn : ∀ a middle, first.outcome world = (.ok a, middle) → Occupancy middle.animals middle →
      Advances (fun b => total b - gain a) middle ((next a).outcome middle)) :
    Advances total world ((first >>= next).outcome world) := by
  have kept := hf.occupancy h
  obtain ⟨events, passes, brings⟩ := hf
  rw [Attempt.outcome_bind]
  generalize first.outcome world = result at *
  obtain ⟨result, middle⟩ := result
  cases result with
  | error fault => exact ⟨events, passes, nofun⟩
  | ok a =>
    obtain ⟨more, rest, bring⟩ := hn a middle rfl kept
    refine ⟨events ++ more, passes.append rest, fun b hb => ?_⟩
    rw [gains_append, brings a rfl, bring b hb]
    exact add_sub_cancel _ _

end Advances

end

end Vivarium.World
