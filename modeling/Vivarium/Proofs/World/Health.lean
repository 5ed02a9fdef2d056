import Vivarium.Proofs.Evolution.Split
import Vivarium.Proofs.Terrain.Furnishing
import Vivarium.Proofs.World.Resumptions

/-!
# Health

An animal is hale if its body is square, its program evolved, its execution plain and its energy
bounded. A living animal that is hale takes its turn without a fault: it can sense, its program goes
on, and its energy and what it hands on can be worked out. Its turn leaves all animals hale, and
raises the bound of the energy of one animal by one bite.
-/

namespace Vivarium

/-- Whether energy up to an amount stays in the range of doubles when it is split. -/
def Splittable (most : Int) : Prop :=
  (most : Rat) ≤ 2 ^ (1010 : Int)

/-- Energy up to an amount that can be split can be split. -/
theorem Splittable.mono {amount bound : Int} (h : Splittable bound) (le : amount ≤ bound) :
    Splittable amount :=
  le_trans (by exact_mod_cast le) h

/-- What an animal needs in order not to fail, with a bound for its energy. -/
structure Animal.Hale (most : Int) (animal : Animal) : Prop where
  body : animal.body.Square
  program : Evolved animal.program
  execution : Execution.Plain animal.execution
  energy : animal.energy ≤ most

/-- A whole percentage that is asked for can be clamped. -/
theorem exists_clampPercentage {asked : Option Number} (h : (Request.fork asked).Whole) :
    ∃ percentage, clampPercentage asked = .ok percentage := by
  cases asked with
  | none => exact ⟨_, rfl⟩
  | some n =>
    obtain ⟨m, rfl⟩ := h n rfl
    exact ⟨_, rfl⟩

namespace World

variable {G : Type} {most most' : Nat → Int} {roster : Array Animal}

/-- Whether all animals that ever were are hale, with a bound for the energy of each. -/
def AllHale (most : Nat → Int) (roster : Array Animal) : Prop :=
  ∀ (id : Nat) (animal : Animal), roster[id]? = some animal → animal.Hale (most id)

/-- Animals stay hale when one of them is changed that stays hale, and the bounds rise. -/
theorem AllHale.modify (h : AllHale most roster) (rise : ∀ id, most id ≤ most' id) {id : Nat}
    {change : Animal → Animal}
    (hc : ∀ animal, animal.Hale (most id) → (change animal).Hale (most' id)) :
    AllHale most' (roster.modify id change) := by
  intro other animal ha
  rw [Array.getElem?_modify] at ha
  split at ha
  · rename_i same
    subst same
    obtain ⟨before, hb, rfl⟩ := Option.map_eq_some_iff.mp ha
    exact hc before (h id before hb)
  · obtain ⟨body, program, execution, energy⟩ := h other animal ha
    exact ⟨body, program, execution, energy.trans (rise other)⟩

/-- Animals stay hale when the bounds rise. -/
theorem AllHale.mono (h : AllHale most roster) (rise : ∀ id, most id ≤ most' id) :
    AllHale most' roster := by
  intro id animal ha
  obtain ⟨body, program, execution, energy⟩ := h id animal ha
  exact ⟨body, program, execution, energy.trans (rise id)⟩

/-- A hale animal may join hale ones. -/
theorem AllHale.push (h : AllHale most roster) {newcomer : Animal}
    (hn : newcomer.Hale (most roster.size)) : AllHale most (roster.push newcomer) := by
  intro id animal ha
  rw [Array.getElem?_push] at ha
  split at ha
  · rename_i last
    rw [last, ← Option.some.inj ha]
    exact hn
  · exact h id animal ha

/-! ## The bound within a tick -/

/-- The bound of energy while some animals still wait for their turn: the others may have had a bite
more. -/
def tally (base : Int) (waiting : List Nat) (id : Nat) : Int :=
  if id ∈ waiting then base else base + Animal.bite

variable {base : Int} {id : Nat} {waiting : List Nat}

/-- No bound is below the one from which the tick starts. -/
theorem le_tally (base : Int) (waiting : List Nat) (id : Nat) : base ≤ tally base waiting id := by
  simp only [tally, Animal.bite]
  split <;> omega

/-- No bound is more than one bite above it. -/
theorem tally_le (base : Int) (waiting : List Nat) (id : Nat) :
    tally base waiting id ≤ base + Animal.bite := by
  simp only [tally, Animal.bite]
  split <;> omega

/-- The bounds rise when a turn comes. -/
theorem tally_cons_le (base : Int) (id : Nat) (waiting : List Nat) (other : Nat) :
    tally base (id :: waiting) other ≤ tally base waiting other := by
  by_cases later : other ∈ waiting
  · rw [tally, tally, if_pos later, if_pos (List.mem_cons_of_mem id later)]
  · simp only [tally, if_neg later, Animal.bite]
    split <;> omega

/-- The animal whose turn comes is within the bound from which the tick starts. -/
theorem tally_cons_self (base : Int) (id : Nat) (waiting : List Nat) :
    tally base (id :: waiting) id = base :=
  if_pos List.mem_cons_self

/-- The animal that had its turn may have had a bite. -/
theorem tally_of_notMem (base : Int) (fresh : id ∉ waiting) :
    tally base waiting id = base + Animal.bite :=
  if_neg fresh

variable [Source G]
variable {world after : World G} {animal : Animal}

/-- What a child takes from a hale animal is hale. -/
theorem hale_legacy {bound : Int} (h : animal.Hale bound) {inherited : Inheritance} {rng : G}
    (hi : world.legacy animal = (.ok inherited, rng)) :
    inherited.body.Square ∧ Evolved inherited.program := by
  obtain ⟨child, last, outcome, square, evolved⟩ :=
    exists_inherit h.body h.program animal.color world.settings.mutation world.rng
  rw [legacy, outcome, Prod.mk.injEq, Except.ok.injEq] at hi
  exact hi.1 ▸ ⟨square, evolved⟩

/-- A deed leaves everybody hale, and the bound of the animal rises by one bite. -/
theorem Deed.allHale (hd : Deed world id animal after) (ha : world.roster[id]? = some animal)
    (alive : 0 ≤ animal.energy) (h : AllHale (tally base (id :: waiting)) world.roster)
    (fresh : id ∉ waiting) (hb : 0 ≤ base) : AllHale (tally base waiting) after.roster := by
  have rise := tally_cons_le base id waiting
  have own := tally_of_notMem base fresh
  have same {change : Animal → Animal} (body : ∀ animal, (change animal).body = animal.body)
      (program : ∀ animal, (change animal).program = animal.program)
      (execution : ∀ animal, (change animal).execution = animal.execution)
      (energy : ∀ animal, (change animal).energy ≤ animal.energy + Animal.bite) :
      AllHale (tally base waiting) (world.roster.modify id change) := by
    refine h.modify rise fun animal hale => ⟨?_, ?_, ?_, ?_⟩
    · rw [body]
      exact hale.body
    · rw [program]
      exact hale.program
    · rw [execution]
      exact hale.execution
    · have bound := hale.energy
      rw [tally_cons_self] at bound
      exact (energy animal).trans (by omega)
  have bite : 0 ≤ Animal.bite := by decide
  cases hd with
  | idle => exact h.mono rise
  | left | right | step | strain =>
    change AllHale (tally base waiting) (world.roster.modify id _)
    exact same (fun _ => rfl) (fun _ => rfl) (fun _ => rfl) fun animal =>
      Int.le_add_of_nonneg_right bite
  | graze =>
    change AllHale (tally base waiting) (world.roster.modify id _)
    refine same (fun _ => rfl) (fun _ => rfl) (fun _ => rfl) fun eater => ?_
    simp only [meal]
    omega
  | strike victim target hv ht =>
    rw [struck, filled_eq]
    have hit : AllHale (tally base waiting)
        (world.roster.modify victim fun animal => { animal with energy := Animal.hitEnergy }) := by
      refine h.modify rise fun animal hale => ⟨hale.body, hale.program, hale.execution, ?_⟩
      exact le_trans (by simp only [Animal.hitEnergy]; omega) (le_tally base waiting victim)
    have waits : AllHale (tally base waiting) ((world.roster.modify victim
        fun animal => { animal with energy := Animal.hitEnergy }).modify id
          fun animal => { animal with wait := Animal.waitHit }) :=
      hit.modify (fun _ => le_rfl) fun animal hale =>
        ⟨hale.body, hale.program, hale.execution, hale.energy⟩
    exact waits
  | bear percentage kept given inherited rng hopen hp hi hs =>
    have hale := h id animal ha
    have bound := hale.energy
    rw [tally_cons_self] at bound
    simp only [leastPercentage, greatestPercentage] at hp
    obtain ⟨kept_nonneg, given_nonneg, total⟩ := splitEnergy_le alive (by omega) hs
    obtain ⟨square, evolved⟩ := hale_legacy hale hi
    have parents : AllHale (tally base waiting) (world.roster.modify id fun parent =>
        { parent with energy := kept, wait := Animal.waitFork }) := by
      refine h.modify rise fun animal hale => ⟨hale.body, hale.program, hale.execution, ?_⟩
      dsimp only
      omega
    refine parents.push ⟨square, evolved, trivial, ?_⟩
    have room := le_tally base waiting (world.roster.modify id fun parent =>
      { parent with energy := kept, wait := Animal.waitFork }).size
    exact le_trans (by simp only [child]; omega) room

/-- A deed leaves the settings and the tick. -/
theorem Deed.settings_tick (hd : Deed world id animal after) :
    after.settings = world.settings ∧ after.tick = world.tick := by
  cases hd with
  | strike =>
    rw [struck, filled_eq]
    exact ⟨rfl, rfl⟩
  | _ => exact ⟨rfl, rfl⟩

/-! ## Turns -/

/-- What a world needs to go on without a fault, at a tick and with a bound for the energy of each
animal. -/
structure Thrives (tick : Nat) (most : Nat → Int) (world : World G) : Prop where
  occupied : Occupied world
  sowable : isSowable world.settings.blobRadius world.settings.maxFood
  tick : world.tick = tick
  allHale : AllHale most world.roster

omit [Source G] in
/-- A world goes on to thrive if it is occupied and everybody is hale, and if settings and tick
stay. -/
theorem Thrives.next {tick : Nat} (h : Thrives tick most world) (occupied : Occupied after)
    (settings : after.settings = world.settings) (same : after.tick = world.tick)
    (allHale : AllHale most' after.roster) : Thrives tick most' after :=
  ⟨occupied, settings ▸ h.sowable, same.trans h.tick, allHale⟩

/-- A fork does not fail if the child can inherit and the energy can be split. -/
theorem exists_outcome_fork (h : Occupied world) (ha : world.roster[id]? = some animal)
    (hi : ∃ inherited rng, world.legacy animal = (.ok inherited, rng)) (alive : 0 ≤ animal.energy)
    (hs : Splittable animal.energy) {asked : Option Number} (whole : (Request.fork asked).Whole) :
    ∃ result after, (fork id asked).outcome world = (.ok result, after) := by
  obtain ⟨percentage, hp⟩ := exists_clampPercentage whole
  obtain ⟨inherited, rng, hi⟩ := hi
  have range : 0 ≤ percentage ∧ percentage ≤ 100 := by
    have bounds := bounds_of_clampPercentage hp
    simp only [leastPercentage, greatestPercentage] at bounds
    omega
  obtain ⟨shares, split⟩ := exists_splitEnergy alive range (by decide) hs
  rw [outcome_fork h ha, hp]
  dsimp only
  split
  · rw [hi]
    dsimp only
    rw [split]
    exact ⟨_, _, rfl⟩
  · exact ⟨_, _, rfl⟩

/-- A whole request of a resident is carried out if a child could inherit and the energy can be
split. -/
theorem exists_outcome_perform (h : Resident id world) (ha : world.roster[id]? = some animal)
    (hi : ∃ inherited rng, world.legacy animal = (.ok inherited, rng)) (alive : 0 ≤ animal.energy)
    (hs : Splittable animal.energy) {request : Request} (whole : request.Whole) :
    ∃ after, (perform id request).outcome world = (.ok (), after) := by
  have forks {asked : Option Number} (whole : (Request.fork asked).Whole) :
      ∃ after, (do let _ ← fork id asked : Sim G Unit).outcome world = (.ok (), after) := by
    obtain ⟨result, after, outcome⟩ := exists_outcome_fork h.occupied ha hi alive hs whole
    exact ⟨after, by rw [Attempt.outcome_bind_of_ok outcome]; rfl⟩
  by_cases action : request.action = .fork
  · cases request with
    | act action' =>
      obtain rfl : action' = .fork := action
      exact forks nofun
    | fork asked => exact forks whole
  · rcases hp : (perform id request).outcome world with ⟨result, after⟩
    cases result with
    | error fault => exact absurd (h.action_of_error hp) action
    | ok _ => exact ⟨after, rfl⟩

/-- A child can inherit from a hale animal. -/
theorem exists_legacy {bound : Int} (world : World G) (hale : animal.Hale bound) :
    ∃ inherited rng, world.legacy animal = (.ok inherited, rng) := by
  obtain ⟨inherited, rng, hi, -⟩ :=
    exists_inherit hale.body hale.program animal.color world.settings.mutation world.rng
  exact ⟨inherited, rng, hi⟩

/-- The turn of a living animal does not fail, and leaves a thriving world. -/
theorem exists_outcome_turn {tick : Nat} (h : Thrives tick (tally base (id :: waiting)) world)
    (hid : id ∈ world.animals) (ha : world.roster[id]? = some animal) (alive : 1 ≤ animal.energy)
    (fresh : id ∉ waiting) (hb : 0 ≤ base) (hs : Splittable base) :
    ∃ after, (turn id).outcome world = (.ok (), after) ∧ Thrives tick (tally base waiting) after ∧
      world.animals ⊆ after.animals := by
  have rise := tally_cons_le base id waiting
  have hale := h.allHale id animal ha
  rw [tally_cons_self] at hale
  have resident : Resident id world := ⟨h.occupied, hid⟩
  obtain ⟨runs, stays⟩ := runs_turn h.occupied hid ha alive
  have occupied := runs.occupancy h.occupied
  suffices taken : ∃ after, (turn id).outcome world = (.ok (), after) ∧
      after.settings = world.settings ∧ after.tick = world.tick ∧
        AllHale (tally base waiting) after.roster by
    obtain ⟨after, outcome, settings, same, allHale⟩ := taken
    rw [outcome] at occupied stays
    exact ⟨after, outcome, h.next occupied settings same allHale, stays⟩
  have held {middle : World G} (hm : AllHale (tally base waiting) middle.roster)
      {held : Option Execution} (plain : Execution.Plain held) :
      AllHale (tally base waiting)
        (middle.changed id fun animal => { animal with execution := held }).roster :=
    hm.modify (fun _ => le_rfl) fun animal hale => ⟨hale.body, hale.program, plain, hale.energy⟩
  rw [turn, outcome_animal_bind ha]
  by_cases waits : 0 < animal.wait
  · rw [if_pos waits]
    refine ⟨_, rfl, rfl, rfl, h.allHale.modify rise fun animal hale => ?_⟩
    exact ⟨hale.body, hale.program, hale.execution, hale.energy.trans (rise id)⟩
  · obtain ⟨outcome, advanced, plain⟩ :=
      comes_advance (resident.sound ha) hale.program.plain hale.execution
    rw [if_neg waits, Attempt.outcome_tryCatch]
    cases outcome with
    | value v =>
      rw [Attempt.outcome_bind_of_ok (outcome_resume_of_value ha advanced)]
      exact ⟨_, rfl, rfl, rfl, held (h.allHale.mono rise) trivial⟩
    | request request waitingFrames =>
      obtain ⟨middle, performed⟩ :=
        exists_outcome_perform resident ha (exists_legacy world hale) (by omega)
          (hs.mono hale.energy) plain.1
      have deed := deed_perform h.occupied hid ha request
      have resumed := outcome_resume_of_request ha advanced
      rw [performed] at deed resumed
      obtain ⟨settings, same⟩ := deed.settings_tick
      rw [Attempt.outcome_bind_of_ok resumed]
      refine ⟨_, rfl, settings, same, held ?_ plain.2⟩
      exact deed.allHale ha (by omega) h.allHale fresh hb

/-- Turns do not fail, and leave a thriving world. -/
theorem exists_outcome_turns {tick : Nat} {ids : List Nat}
    (h : Thrives tick (tally base (ids ++ waiting)) world) (hids : ids ⊆ world.animals)
    (distinct : (ids ++ waiting).Nodup) (hb : 0 ≤ base) (hs : Splittable base) :
    ∃ after, (turns ids).outcome world = (.ok (), after) ∧
      Thrives tick (tally base waiting) after := by
  induction ids generalizing world with
  | nil => exact ⟨world, rfl, h⟩
  | cons id ids ih =>
    have hid := hids List.mem_cons_self
    obtain ⟨animal, ha, -⟩ := h.occupied.known id hid
    obtain ⟨fresh, rest⟩ := List.nodup_cons.mp distinct
    have decays {middle : World G} (hm : Thrives tick (tally base (ids ++ waiting)) middle)
        (stays : world.animals ⊆ middle.animals) :
        ∃ after, (do
          changeAnimal id fun animal => { animal with energy := animal.energy - Animal.energyDecay }
          turns ids : Sim G Unit).outcome middle = (.ok (), after) ∧
            Thrives tick (tally base waiting) after := by
      have decay : Happens (.decay id) middle.animals middle middle.animals (middle.changed id
          fun animal => { animal with energy := animal.energy - Animal.energyDecay }) :=
        .decay (stays hid)
      refine @ih (middle.changed id _) (hm.next (decay.occupancy hm.occupied) rfl rfl ?_)
        (fun other ho => stays (hids (List.mem_cons_of_mem id ho))) rest
      change AllHale (tally base (ids ++ waiting)) (middle.roster.modify id _)
      refine hm.allHale.modify (fun _ => le_rfl) fun animal hale =>
        ⟨hale.body, hale.program, hale.execution, ?_⟩
      exact le_trans (by simp only [Animal.energyDecay]; omega) hale.energy
    rw [turns, outcome_animal_bind ha]
    by_cases alive : animal.isAlive
    · obtain ⟨middle, outcome, thrives, stays⟩ :=
        exists_outcome_turn h hid ha (by simpa [Animal.isAlive] using alive) fresh hb hs
      rw [if_pos alive, Attempt.outcome_bind_of_ok outcome]
      exact decays thrives stays
    · rw [if_neg alive]
      refine decays (h.next h.occupied rfl rfl ?_) (List.Subset.refl _)
      exact h.allHale.mono (tally_cons_le base id (ids ++ waiting))

end World

end Vivarium
