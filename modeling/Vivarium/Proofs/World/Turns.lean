import Vivarium.Proofs.World.Event
import Vivarium.World.Step

/-!
# Turns and removal

The turn of a living animal, the turns of a list of animals and the removal of the doomed are runs
of events that bring no energy into the world, also when a fault ends the turns early. Removal never
fails, and who stays is alive.
-/

namespace Vivarium.World

variable {G : Type} [Source G]
variable {world : World G} {ids : List Nat} {id : Nat} {animal : Animal}

/-- A computation leads from a world to another by some events that bring no energy. -/
def Runs (ids : List Nat) (world : World G) (ids' : List Nat) (after : World G) : Prop :=
  ∃ events, gains events = 0 ∧ Passes events ids world ids' after

/-- Nothing happens in no time. -/
theorem Runs.refl (ids : List Nat) (world : World G) : Runs ids world ids world :=
  ⟨[], rfl, .nil⟩

/-- An event that brings no energy is a run. -/
theorem Happens.runs {event : Event} {ids' : List Nat} {after : World G}
    (h : Happens event ids world ids' after) (hg : event.gain = 0) : Runs ids world ids' after :=
  ⟨[event], by rw [gains_cons, hg]; rfl, h.passes⟩

/-- One run after another is a run. -/
theorem Runs.trans {ids' ids'' : List Nat} {middle after : World G}
    (first : Runs ids world ids' middle) (second : Runs ids' middle ids'' after) :
    Runs ids world ids'' after := by
  obtain ⟨events, hg, hp⟩ := first
  obtain ⟨more, hg', hp'⟩ := second
  exact ⟨events ++ more, by rw [gains_append, hg, hg']; rfl, hp.append hp'⟩

/-- A run keeps the occupancy. -/
theorem Runs.occupancy {ids' : List Nat} {after : World G} (hr : Runs ids world ids' after)
    (h : Occupancy ids world) : Occupancy ids' after := by
  obtain ⟨events, -, hp⟩ := hr
  exact hp.occupancy h

/-! ## Turns -/

omit [Source G] in
/-- A computation without a state is read off the state it leaves. -/
theorem outcome_liftM_bind {α β : Type} (result : Except Fault α) (next : α → Sim G β)
    (world : World G) :
    (liftM result >>= next : Sim G β).outcome world =
      match result with
      | .ok a => (next a).outcome world
      | .error fault => (.error fault, world) := by
  rw [Attempt.outcome_bind, Attempt.outcome_ofExcept]
  cases result <;> rfl

/-- Going on with a program is a deed. -/
theorem deed_resume (h : Occupancy ids world) (hid : id ∈ ids)
    (ha : world.roster[id]? = some animal) (program : Tree) (held : Option Execution) :
    Deed world id animal ((resume id program held).outcome world).2 := by
  rw [resume, outcome_animal_bind ha, Attempt.outcome_bind_of_ok (Attempt.outcome_get world),
    outcome_liftM_bind]
  cases advance (world.senses animal) program held with
  | error fault => exact .idle
  | ok outcome =>
    cases outcome with
    | value v => exact .idle
    | request request waiting =>
      have done := deed_perform h hid ha request
      dsimp only
      rw [Attempt.outcome_bind]
      rcases hp : (perform id request).outcome world with ⟨result, after⟩
      rw [hp] at done
      cases result <;> exact done

/-- A deed leaves everyone in the list. -/
theorem Deed.subset {after : World G} (hd : Deed world id animal after) :
    world.animals ⊆ after.animals := by
  cases hd with
  | bear => exact List.subset_append_left _ _
  | strike =>
    rw [struck, filled_eq]
    exact List.Subset.refl _
  | _ => exact List.Subset.refl _

/-- The turn of a living animal is a run, and leaves everyone in the list. -/
theorem runs_turn (h : Occupancy world.animals world) (hid : id ∈ world.animals)
    (ha : world.roster[id]? = some animal) (alive : 1 ≤ animal.energy) :
    Runs world.animals world ((turn id).outcome world).2.animals ((turn id).outcome world).2 ∧
      world.animals ⊆ ((turn id).outcome world).2.animals := by
  rw [turn, outcome_animal_bind ha]
  by_cases waits : 0 < animal.wait
  · rw [if_pos waits, outcome_changeAnimal]
    exact ⟨(Happens.pause hid ha waits).runs rfl, List.Subset.refl _⟩
  · have done := deed_resume h hid ha animal.program animal.execution
    have act := (Happens.deed hid ha alive done).runs rfl
    have stays := done.subset
    rw [if_neg waits, Attempt.outcome_tryCatch, Attempt.outcome_bind]
    generalize (resume id animal.program animal.execution).outcome world = resumed at *
    obtain ⟨result, after⟩ := resumed
    have hold (put : Option Execution → Option Execution) : Runs world.animals world after.animals
        (after.changed id fun animal => { animal with execution := put animal.execution }) :=
      act.trans ((Happens.hold (stays hid) put).runs rfl)
    cases result with
    | error fault => exact ⟨hold Execution.spoil, stays⟩
    | ok resumption => exact ⟨hold fun _ => resumption.held, stays⟩

/-- The turns of animals of the list are a run, and leave everyone in the list. -/
theorem runs_turns (h : Occupancy world.animals world) (hids : ids ⊆ world.animals) :
    Runs world.animals world ((turns ids).outcome world).2.animals ((turns ids).outcome world).2 ∧
      world.animals ⊆ ((turns ids).outcome world).2.animals := by
  induction ids generalizing world with
  | nil => exact ⟨.refl _ _, List.Subset.refl _⟩
  | cons id ids ih =>
    have hid := hids List.mem_cons_self
    obtain ⟨animal, ha, -⟩ := h.known id hid
    have decays {middle : World G} (hm : Occupancy middle.animals middle)
        (stays : world.animals ⊆ middle.animals)
        (acts : Runs world.animals world middle.animals middle) :
        let after := ((do
          changeAnimal id fun animal => { animal with energy := animal.energy - Animal.energyDecay }
          turns ids : Sim G Unit).outcome middle).2
        Runs world.animals world after.animals after ∧ world.animals ⊆ after.animals := by
      have decay : Happens (.decay id) middle.animals middle middle.animals (middle.changed id
          fun animal => { animal with energy := animal.energy - Animal.energyDecay }) :=
        .decay (stays hid)
      obtain ⟨rest, stay⟩ := @ih (middle.changed id _) (decay.occupancy hm)
        fun other ho => stays (hids (List.mem_cons_of_mem id ho))
      exact ⟨(acts.trans (decay.runs rfl)).trans rest, List.Subset.trans stays stay⟩
    rw [turns, outcome_animal_bind ha]
    by_cases alive : animal.isAlive
    · obtain ⟨acts, stays⟩ := runs_turn h hid ha (by simpa [Animal.isAlive] using alive)
      rw [if_pos alive, Attempt.outcome_bind]
      generalize (turn id).outcome world = taken at *
      obtain ⟨result, middle⟩ := taken
      cases result with
      | error fault => exact ⟨acts, stays⟩
      | ok _ => exact decays (acts.occupancy h) stays acts
    · rw [if_neg alive]
      exact decays h (List.Subset.refl _) (.refl _ _)

/-! ## Removal -/

/-- Whether an animal goes is found without a fault, and who is out of energy goes. -/
theorem exists_outcome_isDoomed (ha : world.roster[id]? = some animal) :
    ∃ doomed rng, (isDoomed id).outcome world = (.ok doomed, world.reseeded rng) ∧
      (doomed = false → 1 ≤ animal.energy) := by
  rw [isDoomed, outcome_animal_bind ha]
  by_cases weak : animal.energy < 1
  · exact ⟨true, world.rng, by rw [if_pos weak]; rfl, nofun⟩
  · refine ⟨(Draw.chance world.settings.cullChance world.rng : Bool × G).1,
      (Draw.chance world.settings.cullChance world.rng : Bool × G).2, ?_, fun _ => by omega⟩
    rw [if_neg weak, Attempt.outcome_bind_of_ok (Attempt.outcome_get world), outcome_draw,
      Attempt.outcome_draw]

/-- Whether a world differs from another one in its landscape and its map of animals at most. -/
def Cleared (before after : World G) : Prop :=
  ∃ land occupied, after = { before with toLandscape := land, occupied }

omit [Source G] in
/-- What is cleared twice is cleared. -/
theorem Cleared.trans {first second third : World G} (h : Cleared first second)
    (h' : Cleared second third) : Cleared first third := by
  obtain ⟨land, occupied, rfl⟩ := h
  obtain ⟨land, occupied, rfl⟩ := h'
  exact ⟨land, occupied, rfl⟩

omit [Source G] in
/-- Taking an animal off the ground clears the world. -/
theorem cleared_buried (world : World G) (rng : G) (animal : Animal) :
    Cleared world ((world.reseeded rng).buried animal) := by
  rw [buried, filled_eq]
  exact ⟨_, _, rfl⟩

omit [Source G] in
/-- An animal is taken off the ground without a fault, before anything else is done. -/
theorem outcome_bury_bind {α : Type} {kept rest : List Nat}
    (h : Occupancy (kept ++ id :: rest) world) (ha : world.roster[id]? = some animal)
    (next : Sim G α) :
    (do
      let animal ← World.animal id
      let _ ← addFood animal.cell animal.energy
      vacate animal.cell
      next : Sim G α).outcome world = next.outcome (world.buried animal) := by
  have hid : id ∈ kept ++ id :: rest := List.mem_append_right _ List.mem_cons_self
  obtain ⟨-, inside, -⟩ := h.stands hid ha
  obtain ⟨added, deposit⟩ :=
    outcome_addFood_of_inside inside h.maxFood_nonneg h.maxFood_le animal.energy
  have present : (world.filled animal.cell animal.energy).occupied.contains animal.cell := by
    rw [filled_eq, Std.ExtTreeMap.contains_eq_isSome_getElem?]
    exact Option.isSome_of_eq_some (h.occupied_eq hid ha)
  rw [outcome_animal_bind ha, Attempt.outcome_bind_of_ok deposit,
    Attempt.outcome_bind_of_ok (outcome_vacate present), buried, filled_eq]

/-- Taking the doomed off the ground is a run without a fault that clears the world, and who stays
is alive. -/
theorem exists_outcome_sortOut (kept : List Nat) (h : Occupancy (kept ++ ids) world) :
    ∃ survivors removed after, (sortOut ids).outcome world = (.ok (survivors, removed), after) ∧
      Runs (kept ++ ids) world (kept ++ survivors) after ∧ Cleared world after ∧
      ∀ id ∈ survivors, ∃ animal, world.roster[id]? = some animal ∧ 1 ≤ animal.energy := by
  induction ids generalizing kept world with
  | nil => exact ⟨[], 0, world, rfl, .refl _ _, ⟨_, _, rfl⟩, nofun⟩
  | cons id ids ih =>
    obtain ⟨animal, ha, -⟩ := h.known id (List.mem_append_right _ List.mem_cons_self)
    obtain ⟨doomed, rng, drawn, lives⟩ := exists_outcome_isDoomed ha
    have draws := (happens_reseeded (kept ++ id :: ids) world rng).runs rfl
    have hd := draws.occupancy h
    rw [sortOut, Attempt.outcome_bind_of_ok drawn]
    cases doomed with
    | true =>
      have hr : (world.reseeded rng).roster[id]? = some animal := ha
      have removal : Happens (.removal id) (kept ++ id :: ids) (world.reseeded rng) (kept ++ ids)
          ((world.reseeded rng).buried animal) := .removal hr
      have clears := cleared_buried world rng animal
      obtain ⟨survivors, removed, after, rest, runs, same, alive⟩ :=
        ih kept (removal.occupancy hd)
      refine ⟨survivors, removed + 1, after, ?_, (draws.trans (removal.runs rfl)).trans runs,
        clears.trans same, fun other ho => ?_⟩
      · rw [if_pos rfl, outcome_bury_bind hd hr, Attempt.outcome_bind_of_ok rest]
        rfl
      · obtain ⟨land, occupied, buries⟩ := clears
        rw [buries] at alive
        exact alive other ho
    | false =>
      rw [List.append_cons] at hd
      obtain ⟨survivors, removed, after, rest, runs, same, alive⟩ := ih (kept ++ [id]) hd
      rw [← List.append_cons, ← List.append_cons] at runs
      have drawn_clears : Cleared world (world.reseeded rng) := ⟨_, _, rfl⟩
      refine ⟨id :: survivors, removed, after, ?_, draws.trans runs, drawn_clears.trans same,
        fun other ho => ?_⟩
      · rw [if_neg (by decide), Attempt.outcome_bind_of_ok rest]
        rfl
      · rcases List.mem_cons.mp ho with rfl | later
        · exact ⟨animal, ha, lives rfl⟩
        · exact alive other later

end Vivarium.World
