import Vivarium.Proofs.World.Census

/-!
# Waiting

An animal that waits is left alone. Whatever all others do, its wait and its energy fall by one in
every tick and nothing else about it changes, unless it is hit and goes at the end of the tick.
After the ticks of its wait its program goes on where it was held.
-/

namespace Vivarium

/-- An animal that has waited for some ticks. -/
def Animal.rested (animal : Animal) (ticks : Nat) : Animal :=
  { animal with wait := animal.wait - ticks, energy := animal.energy - ticks }

/-- An animal that has not waited yet is as it was. -/
theorem Animal.rested_zero (animal : Animal) : animal.rested 0 = animal := by
  simp [rested]

/-- Waiting once more is waiting for one tick more. -/
theorem Animal.rested_succ (animal : Animal) (ticks : Nat) :
    (animal.rested ticks).rested 1 = animal.rested (ticks + 1) := by
  simp only [rested, Nat.cast_one, Nat.cast_add, sub_sub]

namespace World

variable {G : Type} [Source G]
variable {world start before moment after : World G} {id count place ticks : Nat}
variable {animal current : Animal}

/-! ## The visit to an animal that waits -/

/-- An animal that lives and waits is not resumed. -/
theorem exists_visit_of_waits (ha : world.roster[id]? = some animal) (alive : 1 ≤ animal.energy)
    (waits : 0 < animal.wait) :
    ∃ next, (visit id).outcome world = (.ok .waited, next) ∧
      next.roster[id]? = some (animal.rested 1) := by
  have lives : animal.isAlive = true := decide_eq_true alive
  have paused : (takeTurn id).outcome world =
      (.ok .waited, world.changed id fun animal => { animal with wait := animal.wait - 1 }) := by
    rw [takeTurn, outcome_animal_bind ha, if_pos waits]
    rfl
  refine ⟨(world.changed id fun animal => { animal with wait := animal.wait - 1 }).changed id
    Animal.decayed, ?_, ?_⟩
  · rw [visit, outcome_animal_bind ha, if_pos lives, Attempt.outcome_bind_of_ok paused]
    rfl
  · rw [roster_changed, if_pos rfl, roster_changed, if_pos rfl, ha]
    rfl

/-- An animal that does not live loses energy. -/
theorem exists_visit_of_dead (ha : world.roster[id]? = some animal) (dead : animal.energy < 1) :
    ∃ next, (visit id).outcome world = (.ok .missed, next) ∧
      next.roster[id]? = some animal.decayed := by
  have gone : ¬animal.isAlive = true := mt of_decide_eq_true (Int.not_le.mpr dead)
  refine ⟨world.changed id Animal.decayed, ?_, ?_⟩
  · rw [visit, outcome_animal_bind ha, if_neg gone]
    rfl
  · rw [roster_changed, if_pos rfl, ha]
    rfl

/-- The program of an animal that lives and does not wait goes on where it was held. -/
theorem outcome_visit_of_ready (ha : world.roster[id]? = some animal) (alive : 1 ≤ animal.energy)
    (ready : animal.wait ≤ 0) :
    (visit id).outcome world =
      (do
        let seen ← goOn id animal.program animal.execution
        changeAnimal id Animal.decayed
        return seen : Sim G Visit).outcome world := by
  have lives : animal.isAlive = true := decide_eq_true alive
  have resumes : (takeTurn id).outcome world =
      (goOn id animal.program animal.execution).outcome world := by
    rw [takeTurn, outcome_animal_bind ha, if_neg (Int.not_lt.mpr ready)]
  rw [visit, outcome_animal_bind ha, if_pos lives, Attempt.outcome_bind, resumes,
    Attempt.outcome_bind]
  rfl

omit [Source G] in
/-- An animal that is retained and lives was not hit. -/
theorem Retains.eq_of_alive (h : Retains world id animal) (ha : world.roster[id]? = some current)
    (alive : 1 ≤ current.energy) : current = animal := by
  rcases h with found | found
  · exact Option.some.inj (ha.symm.trans found)
  · obtain rfl := Option.some.inj (ha.symm.trans found)
    have energy : animal.downed.energy = -1000 := rfl
    omega

omit [Source G] in
/-- An animal that is retained is in the roster. -/
theorem Retains.exists_current (h : Retains world id animal) :
    ∃ current, world.roster[id]? = some current := by
  rcases h with found | found <;> exact ⟨_, found⟩

/-! ## A tick of an animal that waits -/

/-- How a tick treats an animal until its visit, and if it waits until the end of the visits. -/
structure Isolated (world : World G) (id : Nat) (animal : Animal) : Prop where
  /-- Until it is visited, the animal is as it was unless it is hit. -/
  retained : ∀ place count moment, world.animals[place]? = some id → count ≤ place →
    Stage world count moment → Retains moment id animal
  /-- A visit to another animal changes it by a hit at most. -/
  spared : ∀ count before actor next, Stage world count before →
    world.animals[count]? = some actor → actor ≠ id → Stage world (count + 1) next →
    ∃ seen, (visit actor).outcome before = (.ok seen, next) ∧
      Spared (seen.action = some .hit) id before next
  /-- If it lives and waits when its turn comes, its program is not resumed. It has waited for one
  tick more then, and stays so unless it is hit. -/
  waits : 0 < animal.wait → ∀ place moment current, world.animals[place]? = some id →
    Stage world place moment → moment.roster[id]? = some current → 1 ≤ current.energy →
    ∃ next, (visit id).outcome moment = (.ok .waited, next) ∧
      next.roster[id]? = some (animal.rested 1) ∧
      ∀ count last, place < count → Stage world count last → Retains last id (animal.rested 1)
  /-- If it lives and does not wait when its turn comes, its program goes on where it was held. -/
  resumes : animal.wait ≤ 0 → ∀ place moment current, world.animals[place]? = some id →
    Stage world place moment → moment.roster[id]? = some current → 1 ≤ current.energy →
    (visit id).outcome moment =
      (do
        let seen ← goOn id animal.program animal.execution
        changeAnimal id Animal.decayed
        return seen : Sim G Visit).outcome moment

/-- Until an animal is visited it is retained. -/
theorem retains_of_le (h : Enlisted world) (ha : world.roster[id]? = some animal)
    (listed : world.animals[place]? = some id) (le : count ≤ place)
    (stage : Stage world count moment) : Retains moment id animal := by
  obtain ⟨start, begun, same⟩ := stage.exists_begun
  refine begun.retains stage (Nat.zero_le _) (fun visited => ?_) (.inl (same ▸ ha))
  obtain ⟨other, below, found⟩ := List.mem_take_iff_getElem.mp visited
  obtain ⟨inside, rfl⟩ := List.getElem?_eq_some_iff.mp listed
  have here := (List.Nodup.getElem_inj_iff h.nodup).mp found
  omega

/-- After an animal was visited it is retained. -/
theorem retains_of_lt (h : Enlisted world) (listed : world.animals[place]? = some id)
    (lt : place < count) {next last : World G} (visited : Stage world (place + 1) next)
    (ha : next.roster[id]? = some animal) (stage : Stage world count last) :
    Retains last id animal := by
  refine visited.retains stage lt (fun again => ?_) (.inl ha)
  obtain ⟨inside, rfl⟩ := List.getElem?_eq_some_iff.mp listed
  have later : world.animals[place] ∈ world.animals.drop (place + 1) := by
    rw [List.drop_take] at again
    exact List.mem_of_mem_take again
  obtain ⟨other, below, found⟩ := List.mem_drop_iff_getElem.mp later
  have here := (List.Nodup.getElem_inj_iff h.nodup).mp found
  omega

/-- A tick leaves an animal alone. -/
theorem isolated (h : Enlisted world) (ha : world.roster[id]? = some animal) :
    Isolated world id animal where
  retained place count moment listed le stage := retains_of_le h ha listed le stage
  spared count before actor next stage listed distinct stage' := by
    obtain ⟨seen, hv⟩ := stage.exists_visit stage' listed
    obtain ⟨start, begun, same⟩ := stage.exists_begun
    obtain ⟨born, growth⟩ := begun.exists_growth stage (Nat.zero_le _)
    have known : id < before.roster.size := by
      rw [growth.size, same]
      exact Nat.lt_add_right _ (Array.getElem?_eq_some_iff.mp ha).1
    exact ⟨seen, hv, (visited_of_visit hv).spared distinct.symm known⟩
  waits waits place moment current listed stage found alive := by
    obtain rfl := (retains_of_le h ha listed le_rfl stage).eq_of_alive found alive
    obtain ⟨next, hv, rested⟩ := exists_visit_of_waits found alive waits
    refine ⟨next, hv, rested, fun count last lt stage' => ?_⟩
    exact retains_of_lt h listed lt (stage.next listed hv) rested stage'
  resumes ready place moment current listed stage found alive := by
    obtain rfl := (retains_of_le h ha listed le_rfl stage).eq_of_alive found alive
    exact outcome_visit_of_ready found alive ready

/-! ## Ticks of a run -/

/-- Whether newcomers of a world come with the next numbers, and nobody comes back. -/
structure Continues (world after : World G) : Prop where
  size : world.roster.size ≤ after.roster.size
  listed : ∀ id < world.roster.size, id ∈ after.animals → id ∈ world.animals

omit [Source G] in
/-- A newcomer comes with the next number. -/
theorem continues_settled (world : World G) (newcomer : Animal) :
    Continues world (world.settled newcomer) where
  size := Nat.le_of_lt (Nat.lt_of_lt_of_eq (Nat.lt_succ_self _) (Array.size_push newcomer).symm)
  listed id known hid := by
    rcases List.mem_append.mp hid with old | new
    · exact old
    · exact absurd (List.mem_singleton.mp new) (Nat.ne_of_lt known)

/-- Along alterations newcomers come with the next numbers, and nobody comes back. -/
theorem Altered.continues {allowed : Alteration → Prop} (h : Altered allowed world after) :
    Continues world after := by
  refine h.keeps (fun {alteration middle next} _ ha grown => ?_) ⟨le_rfl, fun _ _ hid => hid⟩
  have further : Continues middle next := by
    cases ha with
    | ground clears =>
      obtain ⟨_, _, rfl⟩ := clears
      exact ⟨le_rfl, fun _ _ hid => hid⟩
    | own | strike => exact ⟨Nat.le_of_eq Array.size_modify.symm, fun _ _ hid => hid⟩
    | @birth _ _ newborn =>
      have joins := continues_settled middle newborn
      exact ⟨joins.size, joins.listed⟩
    | founding => exact continues_settled _ _
    | thinning sub => exact ⟨le_rfl, fun _ _ hid => sub.subset hid⟩
    | count | report => exact ⟨le_rfl, fun _ _ hid => hid⟩
  exact ⟨grown.size.trans further.size, fun id known hid =>
    grown.listed id known (further.listed id (Nat.lt_of_lt_of_le known grown.size) hid)⟩

/-- The worlds of a run after so many completed ticks. In between, animals may be spawned and food
may fall. -/
inductive Later (start : World G) : Nat → World G → Prop where
  /-- No tick has passed. -/
  | now : Later start 0 start
  /-- A new lineage is spawned, if there is a free cell. -/
  | spawned {ticks : Nat} {world : World G} (h : Later start ticks world) :
    Later start ticks (spawn.outcome world).2
  /-- A blob of food falls. -/
  | fed {ticks : Nat} {world : World G} (h : Later start ticks world) :
    Later start ticks (addRandomBlob.outcome world).2
  /-- A tick passes and comes to its end. -/
  | stepped {ticks : Nat} {world after : World G} (h : Later start ticks world)
    (hs : step.outcome world = (.ok (), after)) : Later start (ticks + 1) after

/-- A later world is reachable. -/
theorem Later.reachable {admits : Int → Int → Settings → Prop} (h : Later start ticks world)
    (hr : Reachable admits start) : Reachable admits world := by
  induction h with
  | now => exact hr
  | spawned _ ih => exact ih.spawned
  | fed _ ih => exact ih.fed
  | stepped _ hs ih =>
    have stepped := ih.stepped
    rwa [hs] at stepped

/-- A later world is reached along alterations. -/
theorem Later.altered (h : Later start ticks world) : Altered AnyKind start world := by
  induction h with
  | now => exact .refl _
  | spawned _ ih => exact keeps_altered_spawn trivial trivial _ ih
  | fed _ ih => exact keeps_altered_addRandomBlob trivial _ ih
  | stepped _ hs ih =>
    have altered := keeps_altered_step _ ih
    rwa [hs] at altered

/-- The worlds after some steps that come to their ends are later ones. -/
theorem Later.steps {more : Nat} (h : Later start ticks world)
    (hs : (steps more).outcome world = (.ok (), after)) : Later start (ticks + more) after := by
  induction more generalizing ticks world with
  | zero =>
    cases hs
    exact h
  | succ more ih =>
    obtain ⟨_, middle, hf, hs⟩ := Attempt.outcome_bind_eq_ok_iff.mp hs
    rw [Nat.add_comm more 1, ← Nat.add_assoc]
    exact ih (h.stepped hf) hs

/-- A spawn leaves everybody as they were. -/
theorem roster_spawn (known : id < world.roster.size) :
    (spawn.outcome world).2.roster[id]? = world.roster[id]? := by
  rcases exists_outcome_spawn world with ⟨-, full⟩ | ⟨newcomer, rng, born, -⟩
  · rw [full]
  · rw [born]
    exact (Array.getElem?_push_lt known).trans (Array.getElem?_eq_getElem known).symm

/-- A spawn is not counted as a tick. -/
theorem tick_spawn (world : World G) : (spawn.outcome world).2.tick = world.tick := by
  rcases exists_outcome_spawn world with ⟨-, full⟩ | ⟨newcomer, rng, born, -⟩
  · rw [full]
  · rw [born]
    rfl

/-- A blob of food clears the world. -/
theorem cleared_addRandomBlob (world : World G) : Cleared world (addRandomBlob.outcome world).2 :=
  (keeps_altered_addRandomBlob onGround world (.refl world)).cleared

/-- In a run the ticks are counted. -/
theorem Later.tick_eq (h : Later start ticks world) (hr : Reachable Anywhere start) :
    world.tick = start.tick + ticks := by
  induction h with
  | now => rfl
  | spawned _ ih => rw [tick_spawn, ih]
  | @fed _ world _ ih =>
    obtain ⟨_, _, cleared⟩ := cleared_addRandomBlob world
    rw [cleared, ih]
  | stepped h hs ih =>
    rw [step_eq_chronicle] at hs
    obtain ⟨written, hc⟩ := exists_of_outcome_unit hs
    have accounted := accounted_of_chronicle (enlisted_of_reachable (h.reachable hr)) hc
    rw [accounted.tick, ih, Nat.add_assoc]

/-- An animal that waits and is in the list after a tick has waited for one tick more. -/
theorem rested_of_step (h : Enlisted world) (ha : world.roster[id]? = some animal)
    (waits : 0 < animal.wait) (listed : id ∈ world.animals)
    (hs : step.outcome world = (.ok (), after)) (hid : id ∈ after.animals) :
    after.roster[id]? = some (animal.rested 1) := by
  obtain ⟨last, final, -, left⟩ := exists_last_of_step hs
  obtain ⟨place, here⟩ := List.getElem?_of_mem listed
  have below := (List.getElem?_eq_some_iff.mp here).1
  obtain ⟨moment, stage⟩ := final.exists_earlier (Nat.le_of_lt below)
  obtain ⟨current, found⟩ := (retains_of_le h ha here le_rfl stage).exists_current
  by_cases alive : 1 ≤ current.energy
  · obtain ⟨next, -, -, rested⟩ := (isolated h ha).waits waits place moment current here stage found
      alive
    have retained := rested _ last below final
    obtain ⟨survivor, hl, same, lives⟩ := left id retained.lt_size hid
    rw [same, retained.eq_of_alive hl lives]
  · -- It lost its energy to a hit, so it would have gone at the end of the tick.
    obtain ⟨next, hv, decayed⟩ := exists_visit_of_dead found (Int.not_le.mp alive)
    have retained := retains_of_lt h here below (stage.next here hv) decayed final
    obtain ⟨survivor, hl, -, lives⟩ := left id retained.lt_size hid
    rw [retained.eq_of_alive hl lives] at lives
    simp only [Animal.decayed, Animal.energyDecay] at lives
    omega

/-- An animal that waits and is in the list after some ticks has waited for them. -/
theorem rested_of_later (hr : Reachable Anywhere start) (ha : start.roster[id]? = some animal)
    (later : Later start ticks world) (waits : ticks ≤ animal.wait.toNat)
    (listed : id ∈ world.animals) : world.roster[id]? = some (animal.rested ticks) := by
  have known := (Array.getElem?_eq_some_iff.mp ha).1
  induction later with
  | now => rw [Animal.rested_zero, ha]
  | @spawned _ earlier h ih =>
    have inside := Nat.lt_of_lt_of_le known h.altered.continues.size
    have altered : Altered AnyKind earlier _ :=
      keeps_altered_spawn trivial trivial earlier (.refl earlier)
    rw [roster_spawn inside]
    exact ih waits (altered.continues.listed id inside listed)
  | @fed _ earlier _ ih =>
    obtain ⟨_, _, cleared⟩ := cleared_addRandomBlob earlier
    rw [cleared] at listed ⊢
    exact ih waits listed
  | @stepped ticks earlier after h hs ih =>
    have inside := Nat.lt_of_lt_of_le known h.altered.continues.size
    have altered : Altered AnyKind earlier _ := keeps_altered_step earlier (.refl earlier)
    rw [hs] at altered
    have there := altered.continues.listed id inside listed
    have found := ih (Nat.le_of_succ_le waits) there
    have waiting : 0 < (animal.rested ticks).wait := by
      simp only [Animal.rested]
      omega
    rw [← Animal.rested_succ]
    exact rested_of_step (enlisted_of_reachable (h.reachable hr)) found waiting there hs listed

/-! ## From a turn or a birth on -/

/-- Whether the visits of a tick leave an animal like this, when it has its turn or is born. -/
inductive Left (world : World G) (id : Nat) (animal : Animal) : Prop where
  /-- The animal is visited. -/
  | turn {count : Nat} {before moment : World G} {seen : Visit} (stage : Stage world count before)
    (listed : world.animals[count]? = some id)
    (hv : (visit id).outcome before = (.ok seen, moment))
    (ha : moment.roster[id]? = some animal) : Left world id animal
  /-- The animal is the child of one that is visited. -/
  | birth {count parent : Nat} {before moment : World G} {seen : Visit}
    (stage : Stage world count before) (listed : world.animals[count]? = some parent)
    (hv : (visit parent).outcome before = (.ok seen, moment)) (child : seen.child = some id)
    (ha : moment.roster[id]? = some animal) : Left world id animal

/-- Until the last visit, an animal is retained as it was left. -/
theorem Left.retains (left : Left world id animal) (h : Enlisted world) {last : World G}
    (final : Stage world world.animals.length last) : Retains last id animal := by
  cases left with
  | turn stage listed hv ha =>
    have below := (List.getElem?_eq_some_iff.mp listed).1
    exact retains_of_lt h listed below (stage.next listed hv) ha final
  | birth stage listed hv child ha =>
    have below := (List.getElem?_eq_some_iff.mp listed).1
    obtain ⟨start, begun, same⟩ := stage.exists_begun
    obtain ⟨_, growth⟩ := begun.exists_growth stage (Nat.zero_le _)
    have birth := (visited_of_visit hv).growth
    rw [child] at birth
    have number := (List.cons.inj birth.numbers).1
    refine (stage.next listed hv).retains final below (fun visited => ?_) (.inl ha)
    have known := h.known id (List.mem_of_mem_take (List.mem_of_mem_drop visited))
    rw [number, growth.size, same] at known
    exact absurd known (Nat.not_lt.mpr (Nat.le_add_right _ _))

/-- What the visits of a tick leave an animal as is what it is after the tick, if it is in the list
then. -/
theorem Left.getElem?_of_step (left : Left world id animal) (h : Enlisted world)
    (hs : step.outcome world = (.ok (), after)) :
    id < after.roster.size ∧ (id ∈ after.animals → after.roster[id]? = some animal) := by
  obtain ⟨last, final, grows, lives⟩ := exists_last_of_step hs
  have retained := left.retains h final
  refine ⟨Nat.lt_of_lt_of_le retained.lt_size grows, fun hid => ?_⟩
  obtain ⟨survivor, found, same, alive⟩ := lives id retained.lt_size hid
  rw [same, retained.eq_of_alive found alive]

/-- Everybody in the list is left as something by a tick. -/
theorem exists_left_of_step (listed : world.animals[place]? = some id)
    (hs : step.outcome world = (.ok (), after)) : ∃ animal, Left world id animal := by
  obtain ⟨last, final, -, -⟩ := exists_last_of_step hs
  have below := (List.getElem?_eq_some_iff.mp listed).1
  obtain ⟨before, stage⟩ := final.exists_earlier (Nat.le_of_lt below)
  obtain ⟨next, stage'⟩ := final.exists_earlier (Nat.succ_le_of_lt below)
  obtain ⟨seen, hv⟩ := stage.exists_visit stage' listed
  obtain ⟨found, ha, -⟩ := exists_of_animal_bind hv
  have known : id < next.roster.size := by
    rw [(visited_of_visit hv).growth.size]
    exact Nat.lt_add_right _ (Array.getElem?_eq_some_iff.mp ha).1
  exact ⟨_, .turn stage listed hv (Array.getElem?_eq_getElem known)⟩

/-- Waiting isolates. If the turn of an animal in a tick, or its birth, leaves it with some ticks to
wait, then it has just waited after any number of these ticks, as long as it is in the list: its
wait and its energy have fallen by as many as there were, and nothing else about it has changed,
whatever all others did. In the tick that follows it is as it was until its turn, but for a hit by
another animal. If it is alive at its turn and the wait is not over, it waits for one tick more; if
the wait is over, which is just after as many ticks, its program goes on where it was held. -/
theorem waiting_isolated (hr : Reachable Anywhere world) (left : Left world id animal)
    (hs : step.outcome world = (.ok (), after)) (later : Later after ticks moment)
    (waits : ticks ≤ animal.wait.toNat) (listed : id ∈ moment.animals) :
    (∀ ids, (turns ids : Sim G Unit) = (do let _ ← visitAll ids)) ∧
      moment.tick = world.tick + 1 + ticks ∧
      moment.roster[id]? = some (animal.rested ticks) ∧
      (0 < (animal.rested ticks).wait ↔ ticks < animal.wait.toNat) ∧
      Isolated moment id (animal.rested ticks) := by
  have enlisted := enlisted_of_reachable hr
  have reachable : Reachable Anywhere after := by
    have stepped := hr.stepped
    rwa [hs] at stepped
  have tick : after.tick = world.tick + 1 := (Later.now.stepped hs).tick_eq hr
  obtain ⟨known, found⟩ := left.getElem?_of_step enlisted hs
  have rested := rested_of_later reachable
    (found (later.altered.continues.listed id known listed)) later waits listed
  refine ⟨turns_eq, ?_, rested, ?_, isolated (enlisted_of_reachable (later.reachable reachable))
    rested⟩
  · rw [later.tick_eq reachable, tick]
  · simp only [Animal.rested]
    omega

/-- The first animal of the small world turns in its first tick and waits for three, while another
one is spawned beside it. -/
theorem waiting_isolated_islet :
    ∃ after later : World Beat, ∃ animal, Reachable Anywhere islet ∧ Left islet 0 animal ∧
      animal.wait = 3 ∧ step.outcome islet = (.ok (), after) ∧ Later after 3 later ∧
      0 ∈ later.animals ∧ later.roster[0]? = some (animal.rested 3) ∧
      Isolated later 0 (animal.rested 3) := by
  have empty : World.empty 2 1 (⟨0⟩ : Beat) {} =
      .ok { grid := Grid.empty 2 1, rng := ⟨0⟩, settings := {} } := rfl
  have reachable : Reachable Anywhere islet := reachable_islet trivial
  have thrives : Thrives 0 (fun _ => mostEnergy 0) islet := by
    have ground := occupied_of_empty (habitable_default (by decide) (by decide)) empty
    obtain ⟨_, _, outcome, thrives⟩ := succeeds_spawn (fun _ => startEnergy_le_mostEnergy 0) _
      (⟨ground, isSowable_default, rfl, fun _ _ ha => by simp at ha⟩ : Thrives 0 _ _)
    rwa [islet, outcome]
  have few (count : Nat) : count ≤ 2 ^ count := Nat.lt_two_pow_self.le
  have room : 0 + 4 ≤ 2 ^ 1000 := (by decide : 4 ≤ 1000).trans (few 1000)
  obtain ⟨later, outcome, -⟩ := exists_outcome_steps 4 thrives room
  obtain ⟨_, after, hs, rest⟩ := Attempt.outcome_bind_eq_ok_iff.mp outcome
  have first : islet.animals[0]? = some 0 := by decide +kernel
  have waits : (step.outcome islet).2.roster[0]?.map (·.wait) = some 3 := by decide +kernel
  have soon : 0 ∈ (step.outcome islet).2.animals := by decide +kernel
  have late : 0 ∈ ((steps 4).outcome islet).2.animals := by decide +kernel
  rw [hs] at waits soon
  rw [outcome] at late
  obtain ⟨animal, left⟩ := exists_left_of_step first hs
  obtain ⟨-, -, found, -, -⟩ := waiting_isolated reachable left hs .now (Nat.zero_le _) soon
  rw [found, Animal.rested_zero] at waits
  have wait : animal.wait = 3 := Option.some.inj waits
  have lasts : Later after 3 later := Later.now.steps rest
  obtain ⟨-, -, rested, -, isolated⟩ :=
    waiting_isolated reachable left hs lasts (by rw [wait]; decide) late
  exact ⟨after, later, animal, reachable, left, wait, hs, lasts, late, rested, isolated⟩

end World

end Vivarium
