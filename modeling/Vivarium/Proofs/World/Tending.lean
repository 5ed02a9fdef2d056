import Vivarium.Proofs.World.Reachable

/-!
# The ground over whole runs

Whatever happens to a world once it is there, its ground is tended: the extent and the obstacles
stay where they are, and every cell holds an obstacle or food up to the greatest amount. Each event
tends the ground, and so does every run of events. In a course of a world the programs may also be
exchanged at will, so this does not depend on what animals try to do.
-/

namespace Vivarium.World

variable {G : Type}

/-- One world tends to another if the settings stay and the ground is tended. -/
structure Tends (before after : World G) : Prop where
  settings : after.settings = before.settings
  ground : Grid.Tended before.settings.maxFood before.grid after.grid

namespace Tends

variable {first second third : World G}

/-- What leaves the settings and the ground alone tends the ground. -/
theorem of_eq (settings : second.settings = first.settings) (grid : second.grid = first.grid) :
    Tends first second :=
  ⟨settings, grid ▸ .refl _⟩

/-- A world left alone is tended. -/
theorem refl (world : World G) : Tends world world := of_eq rfl rfl

/-- A world tended twice is tended. -/
theorem trans (h : Tends first second) (h' : Tends second third) : Tends first third :=
  ⟨h'.settings.trans h.settings, h.ground.trans (h.settings ▸ h'.ground)⟩

end Tends

variable {world after : World G} {ids ids' : List Nat} {id : Nat} {animal : Animal}

/-- Food that is added to a cell inside tends the ground. -/
theorem tends_filled {cell : Cell} (inside : world.grid.Inside cell)
    (hl : 0 ≤ world.settings.maxFood) (amount : Int) : Tends world (world.filled cell amount) :=
  ⟨by rw [filled_eq], tended_filled inside hl amount⟩

variable [Source G]

/-- A deed tends the ground. -/
theorem Deed.tends (hd : Deed world id animal after) (h : Occupancy ids world) (hid : id ∈ ids)
    (ha : world.roster[id]? = some animal) : Tends world after := by
  cases hd with
  | idle => exact .refl _
  | left | right | step | strain | bear => exact .of_eq rfl rfl
  | graze =>
    obtain ⟨-, inside, food⟩ := h.stands hid ha
    exact ⟨rfl, tended_grazed h id inside food⟩
  | strike victim target hv ht =>
    have front := Grid.inside_wrapped h.width_pos h.height_pos animal.front
    have deposit := tends_filled front h.maxFood_nonneg target.energy
    exact deposit.trans (.of_eq rfl rfl)

/-- An event tends the ground. -/
theorem Happens.tends {event : Event} (he : Happens event ids world ids' after)
    (h : Occupancy ids world) : Tends world after := by
  cases he with
  | note grid settings => exact .of_eq settings grid
  | blob tended => exact ⟨rfl, tended⟩
  | pause | hold | decay | spawn => exact .of_eq rfl rfl
  | deed hid ha alive hd => exact hd.tends h hid ha
  | @removal kept rest world id animal ha =>
    obtain ⟨-, inside, -⟩ := h.stands (List.mem_append_right _ List.mem_cons_self) ha
    exact (tends_filled inside h.maxFood_nonneg animal.energy).trans (.of_eq rfl rfl)

/-- A run of events tends the ground. -/
theorem Passes.tends {events : List Event} (hp : Passes events ids world ids' after)
    (h : Occupancy ids world) : Tends world after := by
  induction hp with
  | nil => exact .refl _
  | cons event _ ih => exact (event.tends h).trans (ih (event.occupancy h))

/-- An attempt that comes about by events tends the ground. -/
theorem Advances.tends {α : Type} {gain : α → Int} {result : Except Fault α × World G}
    (ha : Advances gain world result) (h : Occupied world) : Tends world result.2 := by
  obtain ⟨events, passes, -⟩ := ha
  exact passes.tends h

/-- A spawn tends the ground. -/
theorem tends_spawn (h : Occupied world) : Tends world (spawn.outcome world).2 :=
  (advances_spawn world).tends h

/-- A random blob tends the ground. -/
theorem tends_addRandomBlob (h : Occupied world) : Tends world (addRandomBlob.outcome world).2 :=
  (advances_addRandomBlob h).tends h

/-- The removal of the dead tends the ground. -/
theorem tends_removeDead (h : Occupied world) : Tends world (removeDead.outcome world).2 := by
  obtain ⟨removed, after, outcome, ⟨events, -, passes⟩, -⟩ := exists_outcome_removeDead h
  rw [outcome]
  exact passes.tends h

/-- A step leaves what its ledger leaves. -/
theorem state_of_step (world : World G) : (step.outcome world).2 = (ledger.outcome world).2 := by
  rw [step_eq, Attempt.outcome_bind]
  rcases ledger.outcome world with ⟨result, after⟩
  cases result <;> rfl

/-- A step tends the ground. -/
theorem tends_step (h : Occupied world) : Tends world (step.outcome world).2 := by
  rw [state_of_step]
  exact (advances_ledger h).1.tends h

/-- The turn of a living animal tends the ground. -/
theorem tends_turn (h : Occupied world) (hid : id ∈ world.animals)
    (ha : world.roster[id]? = some animal) (alive : animal.isAlive) :
    Tends world ((turn id).outcome world).2 := by
  obtain ⟨⟨events, -, passes⟩, -⟩ := runs_turn h hid ha (by simpa [Animal.isAlive] using alive)
  exact passes.tends h

/-- A tick that is interrupted after some turns has tended the ground. -/
theorem tends_beginTurns (h : Occupied world) (count : Nat) :
    Tends world ((beginTurns count).outcome world).2 := by
  obtain ⟨begins, known⟩ := advances_beginTick h
  have begun := begins.occupancy h
  have first := begins.tends h
  rw [beginTurns, Attempt.outcome_bind]
  generalize beginTick.outcome world = outcome at *
  obtain ⟨result, middle⟩ := outcome
  cases result with
  | error fault => exact first
  | ok start =>
    obtain ⟨ids, animals⟩ := known start middle rfl
    have listed : start.1.take count ⊆ middle.animals := by
      rw [ids, animals]
      exact List.take_subset _ _
    have turned := first.trans ((advances_turns begun listed).tends begun)
    dsimp only
    rw [Attempt.outcome_bind]
    generalize (turns (start.1.take count)).outcome middle = outcome at *
    obtain ⟨result, last⟩ := outcome
    cases result <;> exact turned

/-! ## Creation -/

/-- Whether a world is occupied and was tended since an earlier time. -/
def TendedSince (start world : World G) : Prop := Occupied world ∧ Tends start world

variable {start : World G}

omit [Source G] in
/-- What is occupied and tends the ground goes on from tended ground. -/
theorem keeps_tendedSince {α : Type} {attempt : Sim G α} (occupied : Attempt.Keeps Occupied attempt)
    (tends : ∀ world, Occupied world → Tends world (attempt.outcome world).2) :
    Attempt.Keeps (TendedSince start) attempt :=
  fun world h => ⟨occupied world h.1, h.2.trans (tends world h.1)⟩

/-- Blobs tend the ground. -/
theorem keeps_tendedSince_addRandomBlobs (count : Nat) :
    Attempt.Keeps (TendedSince start) (addRandomBlobs count : Sim G Unit) := by
  induction count with
  | zero => exact Attempt.keeps_pure _
  | succ count ih =>
    exact (keeps_tendedSince keeps_occupied_addRandomBlob fun _ => tends_addRandomBlob).bind
      fun _ => ih

omit [Source G] in
/-- An entry of the journal leaves the ground. -/
theorem keeps_tendedSince_report (level : Level) (text : String) :
    Attempt.Keeps (TendedSince start) (report level text : Sim G Unit) :=
  keeps_tendedSince (keeps_occupied_report level text) fun _ _ => .of_eq rfl rfl

/-- Populating a world tends the ground. -/
theorem keeps_tendedSince_populate (count : Nat) :
    Attempt.Keeps (TendedSince start) (populate count : Sim G Unit) := by
  induction count with
  | zero => exact Attempt.keeps_pure _
  | succ count ih =>
    apply (keeps_tendedSince keeps_occupied_spawn fun _ => tends_spawn).bind
    intro spawned
    cases spawned with
    | none => exact Attempt.keeps_get.bind fun _ => keeps_tendedSince_report _ _
    | some _ => exact ih

/-- The world with the obstacles of its creation. -/
def rugged (world : World G) : World G :=
  ((onLandscape (Landscape.placeObstacles obstacleDensity) : Sim G Nat).outcome world).2

/-- Obstacles may be placed on the ground of a world without animals. -/
theorem occupied_rugged (h : Occupied world) (nobody : world.animals = [])
    (map : world.occupied = ∅) : Occupied world.rugged := by
  obtain ⟨bounded, width, height⟩ := Landscape.keeps_placeObstacles h.maxFood_nonneg obstacleDensity
    world.toLandscape ⟨h.bounded, rfl, rfl⟩
  rw [rugged, onLandscape, Attempt.outcome_onPart]
  refine occupied_of_nobody ?_ ?_ h.maxFood_nonneg h.maxFood_le bounded nobody map
  · exact width ▸ h.width_pos
  · exact height ▸ h.height_pos

/-- Once the obstacles are placed, the rest of a creation tends the ground. -/
theorem tends_furnish (seed : Option Int) (population : Int) (h : Occupied world)
    (nobody : world.animals = []) (map : world.occupied = ∅) :
    Tends world.rugged ((furnish seed population).outcome world).2 := by
  have ground : TendedSince world.rugged world.rugged :=
    ⟨occupied_rugged h nobody map, .refl _⟩
  unfold furnish
  rw [Attempt.outcome_bind]
  rw [rugged] at *
  generalize (onLandscape (Landscape.placeObstacles obstacleDensity) : Sim G Nat).outcome world =
    placed at *
  obtain ⟨result, start⟩ := placed
  cases result with
  | error fault => exact .refl _
  | ok obstacles =>
    refine And.right (show TendedSince start _ from ?_)
    refine Attempt.Keeps.bind Attempt.keeps_get (fun _ => ?_) _ ground
    apply (keeps_tendedSince_addRandomBlobs _).bind
    intro _
    apply (keeps_tendedSince_populate _).bind
    intro _
    exact Attempt.keeps_get.bind fun _ => keeps_tendedSince_report _ _

/-! ## Courses -/

/-- What can become of a world after it is there: new lineages are spawned, blobs of food fall,
ticks pass, and animals get any programs and evaluations. -/
inductive Course (start : World G) : World G → Prop where
  /-- Nothing happens. -/
  | here : Course start start
  /-- A new lineage is spawned, if there is a free cell. -/
  | spawned {world : World G} (h : Course start world) : Course start (spawn.outcome world).2
  /-- A blob of food falls. -/
  | fed {world : World G} (h : Course start world) : Course start (addRandomBlob.outcome world).2
  /-- A tick passes. -/
  | stepped {world : World G} (h : Course start world) : Course start (step.outcome world).2
  /-- An animal gets another program, of which any evaluation may be held. -/
  | reprogrammed {world : World G} (h : Course start world) (id : Nat) (program : Tree)
    (execution : Option Execution) :
    Course start (world.changed id fun animal => { animal with program, execution })

/-- A course keeps the occupancy and tends the ground. -/
theorem Course.tendedSince (hc : Course start world) (h : Occupied start) :
    TendedSince start world := by
  induction hc with
  | here => exact ⟨h, .refl _⟩
  | spawned _ ih => exact keeps_tendedSince keeps_occupied_spawn (fun _ => tends_spawn) _ ih
  | fed _ ih =>
    exact keeps_tendedSince keeps_occupied_addRandomBlob (fun _ => tends_addRandomBlob) _ ih
  | stepped _ ih => exact keeps_tendedSince keeps_occupied_step (fun _ => tends_step) _ ih
  | reprogrammed _ id program execution ih =>
    refine ⟨ih.1.changed _ fun animal _ => ⟨rfl, fun sound => ?_⟩, ih.2.trans (.of_eq rfl rfl)⟩
    exact ⟨sound.heading, sound.wait_nonneg, sound.wait_le, sound.color_nonneg, sound.color_le⟩

/-- A meal, a hit and what an animal leaves behind when it is removed tend the ground. -/
theorem tends_actions (h : Occupancy ids world) (hid : id ∈ ids)
    (ha : world.roster[id]? = some animal) :
    Tends world ((eat id).outcome world).2 ∧ Tends world ((hit id).outcome world).2 ∧
      Tends world ((addFood animal.cell animal.energy).outcome world).2 := by
  refine ⟨(deed_perform h hid ha (.act .eat)).tends h hid ha,
    (deed_perform h hid ha (.act .hit)).tends h hid ha, ?_⟩
  obtain ⟨-, inside, -⟩ := h.stands hid ha
  obtain ⟨added, deposit⟩ :=
    outcome_addFood_of_inside inside h.maxFood_nonneg h.maxFood_le animal.energy
  rw [deposit]
  exact tends_filled inside h.maxFood_nonneg animal.energy

/-- In every course of a reachable world, with any programs, each cell holds an obstacle or food up
to the greatest amount, and the obstacles are those of the start. This holds after every step, after
any number of turns in the next step, and after one more turn. No blob, no removal, no meal, no hit
and nothing that is left behind by one of the removed makes or unmakes an obstacle, and within the
creation of a world nothing does so once its obstacles are placed. -/
theorem ground_throughout (h : Reachable Habitable start) (hc : Course start world) :
    (Tends start world ∧ world.grid.Bounded world.settings.maxFood) ∧
      (∀ count,
        let turned := ((beginTurns count).outcome world).2
        (Tends start turned ∧ turned.grid.Bounded turned.settings.maxFood) ∧
          ∀ id ∈ turned.animals, ∀ animal, turned.roster[id]? = some animal → animal.isAlive →
            Tends turned ((turn id).outcome turned).2) ∧
      (∀ w : World G, Occupied w →
        Tends w (addRandomBlob.outcome w).2 ∧ Tends w (removeDead.outcome w).2) ∧
      (∀ ids, ∀ w : World G, Occupancy ids w → ∀ id ∈ ids, ∀ animal, w.roster[id]? = some animal →
        Tends w ((eat id).outcome w).2 ∧ Tends w ((hit id).outcome w).2 ∧
          Tends w ((addFood animal.cell animal.energy).outcome w).2) ∧
      ∀ width height rng settings seed population, ∀ empty : World G,
        Habitable width height settings → World.empty width height rng settings = .ok empty →
          Occupied empty.rugged ∧
            Tends empty.rugged ((furnish seed population).outcome empty).2 := by
  have first := occupied_of_reachable h
  obtain ⟨occupied, tends⟩ := hc.tendedSince first
  refine ⟨⟨tends, occupied.bounded⟩, fun count => ?_,
    fun w hw => ⟨tends_addRandomBlob hw, tends_removeDead hw⟩,
    fun ids w hw id hid animal ha => tends_actions hw hid ha, ?_⟩
  · have turned := keeps_occupied_beginTurns count world occupied
    exact ⟨⟨tends.trans (tends_beginTurns occupied count), turned.bounded⟩,
      fun id hid animal ha alive => tends_turn turned hid ha alive⟩
  · intro width height rng settings seed population empty hab he
    have ground := occupied_of_empty hab he
    obtain ⟨-, -, rfl⟩ := empty_eq_ok_iff.mp he
    exact ⟨occupied_rugged ground rfl rfl, tends_furnish seed population ground rfl rfl⟩

/-- The ground of a small world is tended in a tick after its first animal got a program that hits,
and the evaluation that it held was dropped. -/
theorem ground_throughout_glade :
    ∃ start world, Glade start ∧ Course start world ∧ Tends start world ∧
      world.grid.Bounded world.settings.maxFood := by
  obtain ⟨start, glade, reachable⟩ := exists_glade (habitable_default (by decide) (by decide))
  have course : Course start (step.outcome
      (start.changed 0 fun animal =>
        { animal with program := Tree.apply (.action .hit) [], execution := none })).2 :=
    .stepped (.reprogrammed .here 0 (Tree.apply (.action .hit) []) none)
  exact ⟨start, _, glade, course, (ground_throughout reachable course).1⟩

end Vivarium.World
