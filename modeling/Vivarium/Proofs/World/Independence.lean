import Vivarium.Proofs.World.Footprint
import Vivarium.Proofs.World.Resumptions

/-!
# Independence

What an animal does on its turn depends on its neighbourhood only, and alters nothing else, unless
it forks or turns to a random side: these two draw random numbers, which all animals share. Animals
with neighbourhoods apart may therefore take their turns in either order.
-/

namespace Vivarium.World

variable {G : Type} {α : Type} {ids : List Nat} {id : Nat} {world other : World G}
  {animal : Animal} {region : Region} {cell : Cell}

/-- The neighbourhood of an animal: its cell and the cells in front of it and behind it. -/
def neighbourhood (world : World G) (animal : Animal) : List Cell :=
  [animal.cell, world.grid.wrapped animal.front, world.grid.wrapped animal.back]

/-- The cell of an animal belongs to its neighbourhood. -/
theorem cell_mem_neighbourhood (world : World G) (animal : Animal) :
    animal.cell ∈ world.neighbourhood animal :=
  List.mem_cons_self

/-- The cell in front of an animal belongs to its neighbourhood. -/
theorem front_mem_neighbourhood (world : World G) (animal : Animal) :
    world.grid.wrapped animal.front ∈ world.neighbourhood animal :=
  List.mem_cons_of_mem _ List.mem_cons_self

/-- The cell behind an animal belongs to its neighbourhood. -/
theorem back_mem_neighbourhood (world : World G) (animal : Animal) :
    world.grid.wrapped animal.back ∈ world.neighbourhood animal :=
  List.mem_cons_of_mem _ (List.mem_cons_of_mem _ List.mem_cons_self)

/-- The neighbourhood of an animal and whoever stands there. -/
def surroundings (world : World G) (animal : Animal) : Region where
  cells := { cell | cell ∈ world.neighbourhood animal }
  ids := { id | ∃ cell ∈ world.neighbourhood animal, world.occupied[cell]? = some id }

/-- The action that the next turn of an animal performs, if it performs one. -/
def nextAction (world : World G) (animal : Animal) : Option Action :=
  if 0 < animal.wait then none
  else
    match advance (world.senses animal) animal.program animal.execution with
    | .ok (.request request _) => some request.action
    | _ => none

/-- Whether a turn is sure to draw no random numbers, by the action that it performs. -/
def Quiet (action : Option Action) : Prop :=
  action ≠ some .fork ∧ action ≠ some .turnRandom

instance (action : Option Action) : Decidable (Quiet action) :=
  inferInstanceAs (Decidable (_ ∧ _))

/-- Neighbourhoods without a common cell have no animal in common. -/
theorem surroundings_apart (h : Occupancy ids world) {distant : Animal}
    (apart : (world.neighbourhood animal).Disjoint (world.neighbourhood distant)) :
    (world.surroundings animal).Apart (world.surroundings distant) where
  cells _ here there := apart here there
  ids id := by
    rintro ⟨cell, here, stands⟩ ⟨cell', there, stands'⟩
    obtain ⟨-, found, hf, rfl⟩ := (h.map _ _).mp stands
    obtain ⟨-, found', hf', rfl⟩ := (h.map _ _).mp stands'
    rw [hf, Option.some.injEq] at hf'
    exact apart here (hf' ▸ there)

/-- What is done with a known animal of a region is local if it is local for that animal. -/
theorem Local.of_animal {next : Animal → Sim G α} (hid : id ∈ region.ids)
    (ha : world.roster[id]? = some animal) (h : Local region (next animal) world) :
    Local region (World.animal id >>= next) world :=
  (local_animal hid).bind_of_ok (outcome_animal ha) h

/-- The cell in front of an animal of a region is found locally. -/
theorem local_ahead (hid : id ∈ region.ids) (ha : world.roster[id]? = some animal) :
    Local region (ahead id : Sim G Cell) world :=
  .of_animal hid ha (local_wrap _)

/-- The cell behind an animal of a region is found locally. -/
theorem local_behind (hid : id ∈ region.ids) (ha : world.roster[id]? = some animal) :
    Local region (behind id : Sim G Cell) world :=
  .of_animal hid ha (local_wrap _)

/-- A step between two cells of a region is local. -/
theorem local_stepTo (hid : id ∈ region.ids) (ha : world.roster[id]? = some animal)
    (here : animal.cell ∈ region.cells) (there : cell ∈ region.cells)
    (inside : world.grid.Inside cell) : Local region (stepTo id cell : Sim G Unit) world := by
  refine (local_isFree there inside).bind_of_ok (outcome_isFree_of_inside inside) ?_
  split
  · refine Local.bind (.of_animal hid ha ?_) fun _ _ _ => local_changeAnimal hid _
    exact (local_vacate here).bind fun _ _ _ => (local_changeAnimal hid _).bind fun _ _ _ =>
      local_modify_occupied there fun map place => CellMap.getElem?_insert map cell place id
  · exact local_pure ()

/-! ## Actions -/

section

variable (h : Occupancy ids world) (hid : id ∈ ids) (ha : world.roster[id]? = some animal)

include h hid ha

/-- An animal belongs to its surroundings. -/
theorem mem_surroundings : id ∈ (world.surroundings animal).ids :=
  ⟨animal.cell, world.cell_mem_neighbourhood animal, h.occupied_eq hid ha⟩

/-- A meal is local to the surroundings. -/
theorem local_eat : Local (world.surroundings animal) (eat id : Sim G Unit) world := by
  have self := mem_surroundings h hid ha
  have here := world.cell_mem_neighbourhood animal
  obtain ⟨-, inside, -⟩ := h.stands hid ha
  refine .of_animal self ha ?_
  refine (local_food here inside).bind_of_ok (outcome_food_of_inside inside) ?_
  refine (local_changeAnimal self _).bind_of_ok (outcome_changeAnimal ..) ?_
  refine (local_setFood here ?_ _).bind fun _ _ _ => local_changeAnimal self _
  exact inside

/-- A hit is local to the surroundings. -/
theorem local_hit : Local (world.surroundings animal) (hit id : Sim G Unit) world := by
  have self := mem_surroundings h hid ha
  have inside := Grid.inside_wrapped h.width_pos h.height_pos animal.front
  have near := world.front_mem_neighbourhood animal
  refine (local_ahead self ha).bind_of_ok (outcome_ahead h.width_pos h.height_pos ha) ?_
  refine (local_animalAt near).bind_of_ok (outcome_animalAt ..) ?_
  cases hv : world.occupied[world.grid.wrapped animal.front]? with
  | none => exact local_pure ()
  | some victim =>
    obtain ⟨-, target, ht, -⟩ := (h.map _ _).mp hv
    -- The victim stands in front, so it and the ground under it belong to the surroundings.
    have struck : victim ∈ (world.surroundings animal).ids := ⟨_, near, hv⟩
    refine .of_animal struck ht ?_
    dsimp only
    split
    · exact (local_addFood near inside _).bind fun _ _ _ =>
        (local_changeAnimal struck _).bind fun _ _ _ => local_changeAnimal self _
    · exact (local_changeAnimal struck _).bind fun _ _ _ => local_changeAnimal self _

variable [Source G]

/-- Carrying out a request is local to the surroundings if it draws no random numbers. -/
theorem local_perform {request : Request} (quiet : Quiet (some request.action)) :
    Local (world.surroundings animal) (perform id request : Sim G Unit) world := by
  have self := mem_surroundings h hid ha
  have here := world.cell_mem_neighbourhood animal
  have inside := Grid.inside_wrapped h.width_pos h.height_pos
  match request with
  | .act .move =>
    refine (local_ahead self ha).bind_of_ok (outcome_ahead h.width_pos h.height_pos ha) ?_
    exact local_stepTo self ha here (world.front_mem_neighbourhood animal) (inside _)
  | .act .moveBack =>
    refine (local_behind self ha).bind_of_ok (outcome_behind h.width_pos h.height_pos ha) ?_
    exact local_stepTo self ha here (world.back_mem_neighbourhood animal) (inside _)
  | .act .turnLeft | .act .turnRight => exact local_changeAnimal self _
  | .act .turnRandom => exact absurd rfl quiet.2
  | .act .eat => exact local_eat h hid ha
  | .act .hit => exact local_hit h hid ha
  | .act .fork | .fork _ => exact absurd rfl quiet.1

omit [Source G] in
/-- An animal senses the same in worlds that agree on its surroundings. -/
theorem Agree.senses_eq (agree : Agree (world.surroundings animal) world other) :
    other.senses animal = world.senses animal := by
  obtain ⟨-, inside, -⟩ := h.stands hid ha
  have front := Grid.inside_wrapped h.width_pos h.height_pos animal.front
  have wrap : other.grid.wrap = world.grid.wrap := by
    funext cell
    rw [Grid.wrap, Grid.wrap, agree.width, agree.height]
  have foodHere : other.grid.read animal.cell = world.grid.read animal.cell := by
    rw [Grid.read_of_inside inside, Grid.read_of_inside (agree.inside_iff.mpr inside),
      agree.ground _ (world.cell_mem_neighbourhood animal) inside]
  have foodAhead : (other.grid.wrap animal.front >>= other.grid.read) =
      (world.grid.wrap animal.front >>= world.grid.read) := by
    rw [wrap, Grid.wrap_eq h.width_pos h.height_pos]
    change other.grid.read _ = world.grid.read _
    rw [Grid.read_of_inside front, Grid.read_of_inside (agree.inside_iff.mpr front),
      agree.ground _ (world.front_mem_neighbourhood animal) front]
  exact congrArg₂ (Senses.mk · · animal.energy) foodHere foodAhead

/-- Going on with a program is local to the surroundings if it draws no random numbers. -/
theorem local_resume {program : Tree} {held : Option Execution}
    (quiet : ∀ request waiting,
      advance (world.senses animal) program held = .ok (.request request waiting) →
        Quiet (some request.action)) :
    Local (world.surroundings animal) (resume id program held : Sim G Resumption) world := by
  refine .of_animal (mem_surroundings h hid ha) ha (Local.of_get (fun other agree => ?_) ?_)
  · rw [agree.senses_eq h hid ha]
  · refine (local_ofExcept _).bind fun outcome after reached => ?_
    rw [Attempt.outcome_ofExcept, Prod.mk.injEq] at reached
    obtain ⟨comes, rfl⟩ := reached
    cases outcome with
    | value v => exact local_pure _
    | request request waiting =>
      exact (local_perform h hid ha (quiet request waiting comes)).bind fun _ _ _ => local_pure _

/-- A turn is local to the surroundings if it draws no random numbers. -/
theorem local_turn (quiet : Quiet (world.nextAction animal)) :
    Local (world.surroundings animal) (turn id : Sim G Unit) world := by
  have self := mem_surroundings h hid ha
  refine .of_animal self ha ?_
  split
  · exact local_changeAnimal self _
  · refine Local.tryCatch (Local.bind (local_resume h hid ha fun request waiting asks => ?_)
      fun _ _ _ => local_changeAnimal self _) fun _ _ _ =>
        (local_changeAnimal self _).bind fun _ _ _ => local_throw _
    rwa [nextAction, if_neg ‹_›, asks] at quiet

end

/-! ## Order -/

variable [Source G]

/-- Whether the next turn of an animal performs this action, or nothing if there is none. If the
animal has to wait, the turn shortens the wait and performs nothing. Otherwise the turn resumes the
program and performs what the resumption does, unless a fault stops it. -/
structure Performs (world : World G) (id : Nat) (animal : Animal) (action : Option Action) :
    Prop where
  waits : 0 < animal.wait → action = none ∧
    (turn id).outcome world =
      (.ok (), world.changed id fun animal => { animal with wait := animal.wait - 1 })
  resumes : animal.wait ≤ 0 → ∀ resumption after,
    (resume id animal.program animal.execution).outcome world = (.ok resumption, after) →
      resumption.action = action ∧
      (turn id).outcome world =
        (.ok (), after.changed id fun animal => { animal with execution := resumption.held })

/-- The action of a resumption is the one that is foreseen for the turn. -/
theorem action_of_outcome_resume (ha : world.roster[id]? = some animal) (ready : animal.wait ≤ 0)
    {resumption : Resumption} {after : World G}
    (outcome : (resume id animal.program animal.execution).outcome world =
      (.ok resumption, after)) : resumption.action = world.nextAction animal := by
  rw [nextAction, if_neg (Int.not_lt.mpr ready)]
  cases comes : advance (world.senses animal) animal.program animal.execution with
  | error fault =>
    rw [outcome_resume_of_error ha comes] at outcome
    cases outcome
  | ok found =>
    cases found with
    | value v =>
      rw [outcome_resume_of_value ha comes] at outcome
      cases outcome
      rfl
    | request request waiting =>
      rw [outcome_resume_of_request ha comes] at outcome
      split at outcome <;> cases outcome
      rfl

/-- The next turn performs the action that is foreseen for it. -/
theorem performs_nextAction (ha : world.roster[id]? = some animal) :
    world.Performs id animal (world.nextAction animal) where
  waits waits := ⟨if_pos waits, outcome_turn_of_waits ha waits⟩
  resumes ready _ _ resumed :=
    ⟨action_of_outcome_resume ha ready resumed, outcome_turn_of_resume ha ready resumed⟩

/-- Animals at a distance may take their turns in either order. If the neighbourhoods of two animals
of an occupied world have no cell in common, and neither of the next turns forks or turns to a
random side, then each turn comes to the same whether it is the first or the second one, the two
leave the same world in either order, and so do the two in a row if no fault stops them. The next
turns perform the actions by which they are judged. -/
theorem distant_turns_commute (h : Occupied world) {id' : Nat} {distant : Animal}
    (hid : id ∈ world.animals) (ha : world.roster[id]? = some animal)
    (hid' : id' ∈ world.animals) (hd : world.roster[id']? = some distant)
    (apart : (world.neighbourhood animal).Disjoint (world.neighbourhood distant))
    (quiet : Quiet (world.nextAction animal)) (quiet' : Quiet (world.nextAction distant)) :
    world.Performs id animal (world.nextAction animal) ∧
      world.Performs id' distant (world.nextAction distant) ∧
      ((turn id').outcome ((turn id).outcome world).2).1 = ((turn id').outcome world).1 ∧
      ((turn id).outcome ((turn id').outcome world).2).1 = ((turn id).outcome world).1 ∧
      ((turn id').outcome ((turn id).outcome world).2).2 =
        ((turn id).outcome ((turn id').outcome world).2).2 ∧
      (((turn id).outcome world).1 = .ok () → ((turn id').outcome world).1 = .ok () →
        (do turn id; turn id' : Sim G Unit).outcome world =
          (do turn id'; turn id : Sim G Unit).outcome world) := by
  obtain ⟨same', same, leaves⟩ := (local_turn h hid ha quiet).comm (local_turn h hid' hd quiet')
    (surroundings_apart h apart)
  refine ⟨performs_nextAction ha, performs_nextAction hd, same', same, leaves,
    fun succeeds succeeds' => ?_⟩
  rw [Attempt.outcome_bind_of_ok (Prod.ext succeeds rfl),
    Attempt.outcome_bind_of_ok (Prod.ext succeeds' rfl)]
  exact Prod.ext (by rw [same', same, succeeds, succeeds']) leaves

/-- A strip with an animal that moves, one that hits at a distance from it, and a victim. -/
def strip (rng : Generator) : World Generator :=
  let ground : World Generator := { grid := Grid.empty 6 1, rng, settings := {} }
  let walker : Animal := { cell := ⟨1, 0⟩, program := Tree.apply (.action .move) [] }
  let hunter : Animal := { cell := ⟨4, 0⟩, program := Tree.apply (.action .hit) [] }
  ((ground.settled walker).settled hunter).settled { cell := ⟨5, 0⟩ }

/-- The three animals occupy their strip. -/
theorem occupied_strip (rng : Generator) : Occupied (strip rng) := by
  have empty : World.empty 6 1 rng {} =
      .ok { grid := Grid.empty 6 1, rng, settings := {} } := rfl
  have habitable : Habitable 6 1 {} := ⟨by decide, by decide, by decide, by decide⟩
  have sound (cell : Cell) (program : Tree) : ({ cell, program } : Animal).Sound :=
    ⟨List.mem_cons_self, Int.le_refl 0, (by decide : (0 : Int) ≤ 10), Int.le_refl 0,
      (by decide : (0 : Int) ≤ 255)⟩
  have inside (x : Nat) (hx : x < 6) : (Grid.empty 6 1).Inside ⟨x, 0⟩ :=
    Grid.inside_natCast (Grid.empty 6 1) ⟨x, hx⟩ ⟨0, by decide⟩
  have walker := (occupied_of_empty habitable empty).place
    (sound ⟨1, 0⟩ (Tree.apply (.action .move) [])) (inside 1 (by decide)) rfl
  have hunter := walker.place
    (sound ⟨4, 0⟩ (Tree.apply (.action .hit) [])) (inside 4 (by decide)) rfl
  exact hunter.place (sound ⟨5, 0⟩ _) (inside 5 (by decide)) rfl

/-- A step and a hit at a distance from it may come in either order, and the hit reaches its
victim. -/
theorem distant_turns_commute_strip :
    let world := strip (Generator.ofSeed 7)
    (do turn 0; turn 1 : Sim Generator Unit).outcome world =
        (do turn 1; turn 0 : Sim Generator Unit).outcome world ∧
      ((do turn 1; turn 0 : Sim Generator Unit).outcome world).2.roster[2]?.map Animal.energy =
        some Animal.hitEnergy := by
  intro world
  have occupied : Occupied world := occupied_strip _
  let walker : Animal := { cell := ⟨1, 0⟩, program := Tree.apply (.action .move) [] }
  let hunter : Animal := { cell := ⟨4, 0⟩, program := Tree.apply (.action .hit) [] }
  have apart : (world.neighbourhood walker).Disjoint (world.neighbourhood hunter) :=
    List.disjoint_left.mpr (by decide)
  have quiet : Quiet (world.nextAction walker) := by decide
  have quiet' : Quiet (world.nextAction hunter) := by decide
  have succeeds : ((turn 0).outcome world).1 = .ok () := by decide +kernel
  have succeeds' : ((turn 1).outcome world).1 = .ok () := by decide +kernel
  have hits : ((do turn 1; turn 0 : Sim Generator Unit).outcome world).2.roster[2]?.map
      Animal.energy = some Animal.hitEnergy := by decide +kernel
  obtain ⟨-, -, -, -, -, comm⟩ :=
    distant_turns_commute occupied (by decide : 0 ∈ world.animals) rfl
      (by decide : 1 ∈ world.animals) rfl apart quiet quiet'
  exact ⟨comm succeeds succeeds', hits⟩

end Vivarium.World
