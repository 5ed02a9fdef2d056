import Vivarium.Proofs.World.Energy
import Vivarium.Proofs.World.Reachable

/-!
# The balance of a tick

A tick adds no more energy to the world than the food that falls in it and the energy of the
newcomers that are spawned. An animal that was hit is out of energy for good, so its energy, which
the hit left on the ground, is not left there again when it is removed.
-/

namespace Vivarium.World

variable {G : Type} {world : World G} {id other : Nat} {animal : Animal}

/-! ## Exhaustion -/

/-- Whether an animal is out of energy. -/
def Exhausted (world : World G) (id : Nat) : Prop :=
  ∃ animal, world.roster[id]? = some animal ∧ animal.energy ≤ 0

/-- A change that gives no energy to the exhausted leaves them exhausted. -/
theorem Exhausted.changed (h : Exhausted world other) (change : Animal → Animal)
    (hc : ∀ animal, world.roster[id]? = some animal → animal.energy ≤ 0 →
      (change animal).energy ≤ 0) : Exhausted (world.changed id change) other := by
  obtain ⟨animal, ha, low⟩ := h
  rw [Exhausted, roster_changed, ha]
  by_cases same : id = other
  · subst same
    exact ⟨change animal, if_pos rfl, hc animal ha low⟩
  · exact ⟨animal, if_neg same, low⟩

/-- A newcomer leaves the exhausted as they are. -/
theorem Exhausted.push {after : World G} (h : Exhausted world other) {newcomer : Animal}
    (roster : after.roster = world.roster.push newcomer) : Exhausted after other := by
  obtain ⟨animal, ha, low⟩ := h
  have below := (Array.getElem?_eq_some_iff.mp ha).1
  refine ⟨animal, ?_, low⟩
  rw [roster, Array.getElem?_push, if_neg (by omega), ha]

variable [Source G]

/-- The deed of a living animal leaves the exhausted exhausted. -/
theorem Exhausted.deed {after : World G} (h : Exhausted world other)
    (hd : Deed world id animal after) (ha : world.roster[id]? = some animal)
    (alive : 1 ≤ animal.energy) : Exhausted after other := by
  have actor (found : Animal) (hf : world.roster[id]? = some found) : ¬ found.energy ≤ 0 := by
    rw [ha, Option.some.injEq] at hf
    subst hf
    omega
  cases hd with
  | idle => exact h
  | left rng => exact Exhausted.changed h Animal.turnLeft fun _ _ low => low
  | right rng => exact Exhausted.changed h Animal.turnRight fun _ _ low => low
  | step there inside hopen => exact h.changed _ fun _ _ low => low
  | graze => exact Exhausted.changed h _ fun found hf low => absurd low (actor found hf)
  | strike victim target hv ht =>
    have deposit :
        Exhausted (world.filled (world.grid.wrapped animal.front) target.energy) other := by
      rw [filled_eq]
      exact h
    have low : Animal.hitEnergy ≤ 0 := by decide
    exact (deposit.changed _ fun _ _ _ => low).changed _ fun _ _ low => low
  | strain rng => exact h.changed Animal.tired fun _ _ low => low
  | bear percentage kept given inherited rng hopen hp hi hs =>
    have tired : Exhausted (world.changed id fun parent =>
        { parent with energy := kept, wait := Animal.waitFork }) other :=
      h.changed _ fun found hf low => absurd low (actor found hf)
    exact tired.push rfl

/-- Events leave the exhausted exhausted. -/
theorem Exhausted.happens {event : Event} {ids ids' : List Nat} {after : World G}
    (h : Exhausted world other) (he : Happens event ids world ids' after) :
    Exhausted after other := by
  cases he with
  | note grid settings roster occupied =>
    rw [Exhausted, roster]
    exact h
  | blob tended mass => exact h
  | pause hid ha waits => exact h.changed _ fun _ _ low => low
  | deed hid ha alive hd => exact h.deed hd ha alive
  | hold hid put => exact h.changed _ fun _ _ low => low
  | decay hid =>
    apply h.changed _
    intro _ _ low
    simp only [Animal.energyDecay]
    omega
  | removal ha =>
    rw [buried, filled_eq]
    exact h
  | spawn sound inside hopen energy => exact h.push rfl

/-- The exhausted stay exhausted. -/
theorem Exhausted.passes {events : List Event} {ids ids' : List Nat} {after : World G}
    (h : Exhausted world other) (hp : Passes events ids world ids' after) :
    Exhausted after other := by
  induction hp with
  | nil => exact h
  | cons event _ ih => exact ih (h.happens event)

/-! ## Actions -/

variable {ids : List Nat}

omit [Source G] in
/-- An animal eats without loss. -/
theorem total_eat (h : Occupied world) (hid : id ∈ world.animals)
    (ha : world.roster[id]? = some animal) (alive : 1 ≤ animal.energy) :
    ∃ after, (eat id).outcome world = (.ok (), after) ∧ total after = total world :=
  ⟨_, outcome_eat h hid ha, wealth_grazed h hid ha (by omega)⟩

/-- A hit brings no energy into the world. -/
theorem total_hit_le (h : Occupied world) (hid : id ∈ world.animals)
    (ha : world.roster[id]? = some animal) (alive : 1 ≤ animal.energy) :
    total ((hit id).outcome world).2 ≤ total world :=
  (deed_perform h hid ha (.act .hit)).wealth_le h hid ha (by omega)

/-- A fork brings no energy into the world. -/
theorem total_fork_le (h : Occupied world) (hid : id ∈ world.animals)
    (ha : world.roster[id]? = some animal) (alive : 1 ≤ animal.energy) (asked : Option Number) :
    total ((fork id asked).outcome world).2 ≤ total world :=
  (deed_fork h ha asked).wealth_le h hid ha (by omega)

/-- Removal brings no energy into the world. -/
theorem total_removeDead_le (h : Occupied world) :
    total (removeDead.outcome world).2 ≤ total world := by
  obtain ⟨removed, after, outcome, ⟨events, gain, passes⟩, -⟩ := exists_outcome_removeDead h
  have bound := passes.wealth_le h
  rw [gain, add_zero] at bound
  rw [outcome]
  exact bound

/-- A fork that returns a child bore it, and divided the energy of the parent. -/
theorem exists_borne_of_fork {after : World G} {born : Nat} (h : Occupancy ids world)
    (ha : world.roster[id]? = some animal) {asked : Option Number}
    (hf : (fork id asked).outcome world = (.ok (some born), after)) :
    ∃ percentage kept given newborn rng, clampPercentage asked = .ok percentage ∧
      splitEnergy (.int animal.energy) (.int percentage) forkYield = .ok (kept, given) ∧
      newborn.energy = given ∧ born = world.roster.size ∧
      after = world.borne id newborn kept rng := by
  rw [outcome_fork h ha] at hf
  cases hp : clampPercentage asked with
  | error fault => simp [hp] at hf
  | ok percentage =>
    by_cases hopen : world.isOpen (world.grid.wrapped animal.front)
    · rcases hi : world.legacy animal with ⟨result, rng⟩
      cases result with
      | error fault => simp [hp, hopen, hi] at hf
      | ok inherited =>
        cases hs : splitEnergy (.int animal.energy) (.int percentage) forkYield with
        | error fault => simp [hp, hopen, hi, hs] at hf
        | ok parts =>
          simp only [hp, hopen, hi, hs, if_true, Prod.mk.injEq, Except.ok.injEq,
            Option.some.injEq] at hf
          obtain ⟨rfl, rfl⟩ := hf
          exact ⟨percentage, parts.1, parts.2, _, rng, rfl, hs, rfl, rfl, rfl⟩
    · simp [hp, hopen] at hf

/-- Parent and child have no more energy together than the parent had before. -/
theorem energy_fork_le {after : World G} {born : Nat} (h : Occupancy ids world)
    (hid : id ∈ ids) (ha : world.roster[id]? = some animal) (alive : 1 ≤ animal.energy)
    {asked : Option Number} (hf : (fork id asked).outcome world = (.ok (some born), after)) :
    ∃ parent newborn, after.roster[id]? = some parent ∧ after.roster[born]? = some newborn ∧
      parent.energy + newborn.energy ≤ animal.energy := by
  obtain ⟨percentage, kept, given, newborn, rng, hp, hs, energy, rfl, rfl⟩ :=
    exists_borne_of_fork h ha hf
  have bounds := bounds_of_clampPercentage hp
  simp only [leastPercentage, greatestPercentage] at bounds
  obtain ⟨-, -, split⟩ := splitEnergy_le (by omega) (by omega) hs
  have below := h.lt_size hid
  have tired : (world.changed id fun parent =>
      { parent with energy := kept, wait := Animal.waitFork }).roster[id]? =
        some { animal with energy := kept, wait := Animal.waitFork } := by
    rw [roster_changed, if_pos rfl, ha]
    rfl
  have size : (world.changed id fun parent =>
      { parent with energy := kept, wait := Animal.waitFork }).roster.size = world.roster.size :=
    Array.size_modify
  refine ⟨{ animal with energy := kept, wait := Animal.waitFork }, newborn, ?_, ?_, ?_⟩
  · change ((world.changed id fun parent =>
      { parent with energy := kept, wait := Animal.waitFork }).roster.push newborn)[id]? = _
    rw [Array.getElem?_push, if_neg (by omega), tired]
  · change ((world.changed id fun parent =>
      { parent with energy := kept, wait := Animal.waitFork }).roster.push newborn)[_]? = _
    rw [Array.getElem?_push, if_pos size.symm]
  · rw [energy]
    exact split

omit [Source G] in
/-- Nothing is left on the ground by an animal out of energy. -/
theorem outcome_addFood_of_nonpos {cell : Cell} (inside : world.grid.Inside cell) {amount : Int}
    (low : amount ≤ 0) : (addFood cell amount).outcome world = (.ok 0, world) := by
  rw [addFood, Attempt.outcome_bind_of_ok (outcome_food_of_inside inside), if_pos (.inr low)]
  rfl

omit [Source G] in
/-- A victim is exhausted after a hit. -/
theorem exhausted_hit (h : Occupancy ids world) (ha : world.roster[id]? = some animal)
    {victim : Nat}
    (hv : world.occupied[world.grid.wrapped animal.front]? = some victim) :
    (hit id).outcome world = (.ok (), ((hit id).outcome world).2) ∧
      Exhausted ((hit id).outcome world).2 victim := by
  obtain ⟨-, target, ht, -⟩ := (h.map _ _).mp hv
  rw [outcome_hit h ha, hv]
  dsimp only
  rw [ht]
  refine ⟨rfl, ?_⟩
  have struck : Exhausted ((world.filled (world.grid.wrapped animal.front) target.energy).changed
      victim fun animal => { animal with energy := Animal.hitEnergy }) victim := by
    refine ⟨{ target with energy := Animal.hitEnergy }, ?_, (by decide : Animal.hitEnergy ≤ 0)⟩
    rw [filled_eq, roster_changed, if_pos rfl]
    exact congrArg (Option.map _) ht
  exact struck.changed _ fun _ _ low => low

/-- What is left on the ground by a hit is not left there again: whatever happens until the victim
is removed, its removal adds nothing. -/
theorem outcome_addFood_after_hit (h : Occupied world) (hid : id ∈ world.animals)
    (ha : world.roster[id]? = some animal) {victim : Nat}
    (hv : world.occupied[world.grid.wrapped animal.front]? = some victim) {events : List Event}
    {ids' : List Nat} {later : World G}
    (hp : Passes events ((hit id).outcome world).2.animals ((hit id).outcome world).2 ids' later)
    (hm : victim ∈ ids') :
    ∃ corpse, later.roster[victim]? = some corpse ∧
      (addFood corpse.cell corpse.energy).outcome later = (.ok 0, later) := by
  have struck := (deed_perform h hid ha (.act .hit)).occupancy h hid ha
  have occupied := hp.occupancy struck
  obtain ⟨corpse, hc, low⟩ := (exhausted_hit h ha hv).2.passes hp
  obtain ⟨found, hf, -, inside, -⟩ := occupied.known victim hm
  rw [hc, Option.some.injEq] at hf
  subst hf
  exact ⟨corpse, hc, outcome_addFood_of_nonpos inside low⟩

/-! ## Steps -/

/-- A step is a tick that was written down. -/
theorem exists_ledger_of_step {after : World G} (hs : step.outcome world = (.ok (), after)) :
    ∃ written, ledger.outcome world = (.ok written, after) := by
  rw [step_eq] at hs
  obtain ⟨written, last, hl, rest⟩ := Attempt.outcome_bind_eq_ok_iff.mp hs
  cases rest
  exact ⟨written, hl⟩

/-- A completed tick adds no more than the food that falls and the energy of the spawned. -/
theorem total_ledger_le (h : Occupied world) {written : Ledger} {after : World G}
    (hl : ledger.outcome world = (.ok written, after)) :
    total after ≤ total world + written.food + startEnergy * written.spawned := by
  obtain ⟨events, passes, gain⟩ := (advances_ledger h).1
  rw [hl] at passes gain
  have bound := passes.wealth_le h
  rw [gain written rfl] at bound
  rw [add_assoc]
  exact bound

/-- No step creates energy: what a completed step of a reachable world adds is at most the food that
fell and two hundred for each of the spawned. In every occupied world, and so at every moment of a
step, removal adds nothing, and of the actions of a living animal eating changes nothing, a hit and
a fork add nothing, a fork leaves parent and child no more than the parent had, and the removal of a
victim, whatever happens before, leaves nothing on the ground again. -/
theorem energy_balance (h : Reachable Habitable world) :
    (step : Sim G Unit) = (do let _ ← ledger) ∧
      (∀ after, step.outcome world = (.ok (), after) →
        ∃ written, ledger.outcome world = (.ok written, after) ∧
          total after ≤ total world + written.food + 200 * written.spawned) ∧
      ∀ w : World G, Occupied w →
        total (removeDead.outcome w).2 ≤ total w ∧
        ∀ id ∈ w.animals, ∀ animal, w.roster[id]? = some animal → 1 ≤ animal.energy →
          (∃ after, (eat id).outcome w = (.ok (), after) ∧ total after = total w) ∧
          total ((hit id).outcome w).2 ≤ total w ∧
          (∀ asked, total ((fork id asked).outcome w).2 ≤ total w ∧
            ∀ born after, (fork id asked).outcome w = (.ok (some born), after) →
              ∃ parent newborn, after.roster[id]? = some parent ∧
                after.roster[born]? = some newborn ∧
                parent.energy + newborn.energy ≤ animal.energy) ∧
          ∀ victim, w.occupied[w.grid.wrapped animal.front]? = some victim →
            ∀ events ids later,
              Passes events ((hit id).outcome w).2.animals ((hit id).outcome w).2 ids later →
              victim ∈ ids →
              ∃ corpse, later.roster[victim]? = some corpse ∧
                (addFood corpse.cell corpse.energy).outcome later = (.ok 0, later) := by
  have occupied := occupied_of_reachable h
  refine ⟨step_eq, fun after hs => ?_, fun w hw => ⟨total_removeDead_le hw, ?_⟩⟩
  · obtain ⟨written, hl⟩ := exists_ledger_of_step hs
    exact ⟨written, hl, total_ledger_le occupied hl⟩
  · intro id hid animal ha alive
    refine ⟨total_eat hw hid ha alive, total_hit_le hw hid ha alive, fun asked => ?_, ?_⟩
    · exact ⟨total_fork_le hw hid ha alive asked,
        fun born after hf => energy_fork_le hw hid ha alive hf⟩
    · intro victim hv events ids later hp hm
      exact outcome_addFood_after_hit hw hid ha hv hp hm

/-- The world with two cells after a blob of food. -/
def meadow : World Beat := (addRandomBlob.outcome islet).2

/-- In the meadow a step comes to its end in which the animal has a meal of one hundred and another
animal is spawned. The meal changes nothing about the total, one is lost to the decay of the first
animal, and two hundred are brought by the second. In the world with two animals a hit keeps the
total, and nothing more is left of its victim. -/
theorem energy_balance_meadow :
    ∃ after written corpse, Reachable Habitable meadow ∧ step.outcome meadow = (.ok (), after) ∧
      ledger.outcome meadow = (.ok written, after) ∧
      meadow.roster[0]?.map (·.energy) = some 200 ∧
      after.roster[0]?.map (fun animal => (animal.energy, animal.wait)) = some (299, 5) ∧
      total meadow = 1800 ∧ total after = 1999 ∧ written.food = 0 ∧ written.spawned = 1 ∧
      total after ≤ total meadow + written.food + 200 * written.spawned ∧
      total duo = 400 ∧ total ((hit 0).outcome duo).2 = 400 ∧
      ((hit 0).outcome duo).2.roster[1]? = some corpse ∧ corpse.energy = -1000 ∧
      (addFood corpse.cell corpse.energy).outcome ((hit 0).outcome duo).2 =
        (.ok 0, ((hit 0).outcome duo).2) := by
  have islet : Reachable Habitable islet :=
    reachable_islet (habitable_default (by decide) (by decide))
  have reachable : Reachable Habitable meadow := islet.fed
  have occupied : Occupied duo := occupied_of_reachable islet.spawned
  obtain ⟨start, before, succeeds, fed, later, gains⟩ :
      meadow.roster[0]?.map (·.energy) = some 200 ∧ total meadow = 1800 ∧
      (step.outcome meadow).1 = .ok () ∧
      (step.outcome meadow).2.roster[0]?.map (fun animal => (animal.energy, animal.wait)) =
        some (299, 5) ∧
      total (step.outcome meadow).2 = 1999 ∧
      (ledger.outcome meadow).1.map (fun written => (written.food, written.spawned)) =
        .ok (0, 1) := by
    decide +kernel
  have front : duo.roster[0]?.map (fun animal => (animal.energy,
      duo.occupied[duo.grid.wrapped animal.front]?)) = some (200, some 1) := by decide +kernel
  have struck : total duo = 400 ∧ total ((hit 0).outcome duo).2 = 400 ∧
      ((hit 0).outcome duo).2.roster[1]?.map (·.energy) = some (-1000) := by decide +kernel
  have listed : 0 ∈ duo.animals ∧ 1 ∈ ((hit 0).outcome duo).2.animals := by decide +kernel
  obtain ⟨-, steps, deeds⟩ := energy_balance reachable
  obtain ⟨written, wrote, bound⟩ := steps _ (Prod.ext succeeds rfl)
  rw [wrote] at gains
  obtain ⟨food, spawned⟩ := Prod.mk.inj (Except.ok.inj gains)
  obtain ⟨attacker, first, ahead⟩ := Option.map_eq_some_iff.mp front
  obtain ⟨energy, victim⟩ := Prod.mk.inj ahead
  obtain ⟨-, -, -, spoils⟩ :=
    (deeds duo occupied).2 0 listed.1 attacker first (by rw [energy]; decide)
  obtain ⟨corpse, found, nothing⟩ := spoils 1 victim [] _ _ .nil listed.2
  rw [found] at struck
  exact ⟨_, written, corpse, reachable, Prod.ext succeeds rfl, wrote, start, fed, before, later,
    food, spawned, bound, struck.1, struck.2.1, found, Option.some.inj struck.2.2, nothing⟩

end Vivarium.World
