import Vivarium.Proofs.World.Visiting

/-!
# Stages of a tick

A tick that comes to its end goes through a stage after each visit. The rounds of visits lead from
one stage to another, and from the last stage some animals are removed and some spawned.
-/

namespace Vivarium.World

variable {G : Type} [Source G]
variable {world start moment later after : World G}

omit [Source G] in
/-- What is thrown away at the end was there. -/
theorem exists_of_outcome_unit {α : Type} {attempt : Sim G α}
    (h : (do let _ ← attempt : Sim G Unit).outcome world = (.ok (), after)) :
    ∃ a, attempt.outcome world = (.ok a, after) := by
  obtain ⟨a, last, ha, rest⟩ := Attempt.outcome_bind_eq_ok_iff.mp h
  cases rest
  exact ⟨a, ha⟩

/-! ## Stages -/

/-- Whether a world is that of a tick after the visits of so many animals. -/
def Stage (world : World G) (count : Nat) (moment : World G) : Prop :=
  (beginTurns count).outcome world = (.ok world.animals, moment)

/-- Before the first visit a tick is counted, and the ground may have changed. -/
theorem begun_of_beginTick {begun : List Nat × Int}
    (h : beginTick.outcome world = (.ok begun, start)) :
    begun.1 = world.animals ∧ Cleared { world with tick := world.tick + 1 } start := by
  rw [beginTick, Attempt.outcome_bind_of_ok (Attempt.outcome_modify _ world),
    Attempt.outcome_bind_of_ok (Attempt.outcome_get _), Attempt.outcome_bind_of_ok
      (by rw [outcome_draw, Attempt.outcome_draw])] at h
  generalize (Draw.chance world.settings.blobChance world.rng : Bool × G) = falls at h
  have counts : Cleared { world with tick := world.tick + 1 }
      (World.reseeded { world with tick := world.tick + 1 } falls.2) := ⟨_, _, rfl⟩
  dsimp only at h
  generalize World.reseeded { world with tick := world.tick + 1 } falls.2 = counted at h counts
  split at h
  · obtain ⟨food, fed, hf, h⟩ := Attempt.outcome_bind_eq_ok_iff.mp h
    cases h
    have altered := keeps_altered_addRandomBlob onGround counted (.refl counted)
    rw [hf] at altered
    exact ⟨rfl, counts.trans altered.cleared⟩
  · cases h
    exact ⟨rfl, counts⟩

/-- A stage comes from the beginning of the tick by the visits of the first animals of the list. -/
theorem stage_iff {count : Nat} :
    Stage world count moment ↔ ∃ begun start, beginTick.outcome world = (.ok begun, start) ∧
      ∃ visits, (visitAll (world.animals.take count)).outcome start = (.ok visits, moment) := by
  constructor
  · intro h
    obtain ⟨⟨ids, food⟩, start, hb, h⟩ := Attempt.outcome_bind_eq_ok_iff.mp h
    obtain ⟨_, last, ht, h⟩ := Attempt.outcome_bind_eq_ok_iff.mp h
    obtain ⟨rfl, -⟩ := begun_of_beginTick hb
    cases h
    rw [turns_eq] at ht
    exact ⟨_, start, hb, exists_of_outcome_unit ht⟩
  · rintro ⟨⟨ids, food⟩, start, hb, visits, hv⟩
    obtain ⟨rfl, -⟩ := begun_of_beginTick hb
    rw [Stage, beginTurns, Attempt.outcome_bind_of_ok hb]
    dsimp only
    rw [turns_eq, bind_assoc, Attempt.outcome_bind_of_ok hv]
    rfl

/-- Visits of some animals and then of others are visits of all of them. -/
theorem visitAll_append (first second : List Nat) :
    (visitAll (first ++ second) : Sim G _) = (do
      let visits ← visitAll first
      let more ← visitAll second
      return visits ++ more) := by
  induction first with
  | nil => simp only [List.nil_append, visitAll, pure_bind, bind_pure]
  | cons id first ih => simp only [List.cons_append, visitAll, ih, bind_assoc, pure_bind]

/-- Before the first visit everybody is as they were. -/
theorem Stage.exists_begun {count : Nat} (h : Stage world count moment) :
    ∃ start, Stage world 0 start ∧ start.roster = world.roster := by
  obtain ⟨begun, start, hb, -⟩ := stage_iff.mp h
  obtain ⟨-, _, _, rfl⟩ := begun_of_beginTick hb
  exact ⟨_, stage_iff.mpr ⟨begun, _, hb, [], rfl⟩, rfl⟩

/-- A tick goes through all earlier stages. -/
theorem Stage.exists_earlier {count further : Nat} (h : Stage world further later)
    (le : count ≤ further) : ∃ moment, Stage world count moment := by
  obtain ⟨begun, start, hb, visits, hv⟩ := stage_iff.mp h
  have parts := List.take_append_drop count (world.animals.take further)
  rw [List.take_take, Nat.min_eq_left le] at parts
  rw [← parts, visitAll_append] at hv
  obtain ⟨former, moment, hf, -⟩ := Attempt.outcome_bind_eq_ok_iff.mp hv
  exact ⟨moment, stage_iff.mpr ⟨begun, start, hb, former, hf⟩⟩

/-- Visits lead on from one stage to another. -/
theorem Stage.exists_visits {count further : Nat} (h : Stage world count moment)
    (h' : Stage world further later) (le : count ≤ further) :
    ∃ visits, (visitAll ((world.animals.take further).drop count)).outcome moment =
      (.ok visits, later) := by
  obtain ⟨begun, start, hb, visits, hv⟩ := stage_iff.mp h
  obtain ⟨begun', start', hb', visits', hv'⟩ := stage_iff.mp h'
  obtain ⟨-, rfl⟩ := Prod.mk.inj (hb.symm.trans hb')
  have parts := List.take_append_drop count (world.animals.take further)
  rw [List.take_take, Nat.min_eq_left le] at parts
  rw [← parts, visitAll_append, Attempt.outcome_bind_of_ok hv] at hv'
  obtain ⟨more, last, hm, rest⟩ := Attempt.outcome_bind_eq_ok_iff.mp hv'
  cases rest
  exact ⟨more, hm⟩

/-- Who is not visited between two stages is retained. -/
theorem Stage.retains {count further id : Nat} {animal : Animal} (h : Stage world count moment)
    (h' : Stage world further later) (le : count ≤ further)
    (unvisited : id ∉ (world.animals.take further).drop count)
    (retained : Retains moment id animal) : Retains later id animal := by
  obtain ⟨visits, hv⟩ := h.exists_visits h' le
  obtain ⟨numbers, rounds⟩ := rounds_of_visitAll hv
  exact (rounds.spared (numbers ▸ unvisited) retained.lt_size).retains retained

/-- From a stage to a later one the world grows. -/
theorem Stage.exists_growth {count further : Nat} (h : Stage world count moment)
    (h' : Stage world further later) (le : count ≤ further) : ∃ born, Growth moment born later := by
  obtain ⟨visits, hv⟩ := h.exists_visits h' le
  exact ⟨_, (rounds_of_visitAll hv).2.growth⟩

/-- One visit leads from each stage to the next. -/
theorem Stage.exists_visit {count id : Nat} (h : Stage world count moment)
    (h' : Stage world (count + 1) later) (listed : world.animals[count]? = some id) :
    ∃ seen, (visit id).outcome moment = (.ok seen, later) := by
  obtain ⟨visits, hv⟩ := h.exists_visits h' (Nat.le_succ count)
  obtain ⟨below, rfl⟩ := List.getElem?_eq_some_iff.mp listed
  have single : (world.animals.take (count + 1)).drop count = [world.animals[count]] := by
    rw [List.take_succ_eq_append_getElem below,
      List.drop_left' (List.length_take_of_le (Nat.le_of_lt below))]
  rw [single] at hv
  obtain ⟨seen, next, hn, hv⟩ := Attempt.outcome_bind_eq_ok_iff.mp hv
  cases hv
  exact ⟨seen, hn⟩

/-- A visit to the next animal of the list leads to the next stage. -/
theorem Stage.next {count id : Nat} {seen : Visit} (h : Stage world count moment)
    (listed : world.animals[count]? = some id)
    (hv : (visit id).outcome moment = (.ok seen, later)) : Stage world (count + 1) later := by
  obtain ⟨begun, start, hb, visits, former⟩ := stage_iff.mp h
  obtain ⟨below, rfl⟩ := List.getElem?_eq_some_iff.mp listed
  refine stage_iff.mpr ⟨begun, start, hb, visits ++ [(world.animals[count], seen)], ?_⟩
  rw [List.take_succ_eq_append_getElem below, visitAll_append, Attempt.outcome_bind_of_ok former,
    visitAll, bind_assoc, Attempt.outcome_bind_of_ok hv]
  rfl

/-- Each of the visits to everybody in the list leads from a stage to the next. -/
theorem exists_stages_of_visitAll {begun : List Nat × Int} {visits : List (Nat × Visit)}
    (hb : beginTick.outcome world = (.ok begun, start))
    (hv : (visitAll world.animals).outcome start = (.ok visits, after)) {count : Nat} {id : Nat}
    {seen : Visit} (hc : visits[count]? = some (id, seen)) :
    ∃ before next, Stage world count before ∧ (visit id).outcome before = (.ok seen, next) ∧
      Stage world (count + 1) next := by
  have numbers := (rounds_of_visitAll hv).1
  have listed : world.animals[count]? = some id := by
    rw [← numbers, List.getElem?_map, hc]
    rfl
  obtain ⟨below, rfl⟩ := List.getElem?_eq_some_iff.mp listed
  have parts : world.animals.take count ++ world.animals[count] :: world.animals.drop (count + 1) =
      world.animals := by
    rw [← List.drop_eq_getElem_cons below, List.take_append_drop]
  rw [← parts, visitAll_append] at hv
  obtain ⟨former, before, hf, hv⟩ := Attempt.outcome_bind_eq_ok_iff.mp hv
  obtain ⟨latter, last, hl, hv⟩ := Attempt.outcome_bind_eq_ok_iff.mp hv
  obtain ⟨found, next, hn, hl⟩ := Attempt.outcome_bind_eq_ok_iff.mp hl
  obtain ⟨rest, final, -, hl⟩ := Attempt.outcome_bind_eq_ok_iff.mp hl
  cases hl
  cases hv
  have length : former.length = count := by
    rw [← List.length_map (f := Prod.fst), (rounds_of_visitAll hf).1, List.length_take,
      Nat.min_eq_left (Nat.le_of_lt below)]
  have same : (world.animals[count], found) = (world.animals[count], seen) := by
    rw [List.getElem?_append_right (Nat.le_of_eq length), length, Nat.sub_self] at hc
    exact Option.some.inj hc
  obtain ⟨-, rfl⟩ := Prod.mk.inj same
  have stage : Stage world count before := stage_iff.mpr ⟨begun, start, hb, former, hf⟩
  exact ⟨before, next, stage, hn, stage.next listed hn⟩

/-- The visits to everybody in the list lead to the last stage. -/
theorem stage_of_visitAll {begun : List Nat × Int} {visits : List (Nat × Visit)}
    (hb : beginTick.outcome world = (.ok begun, start))
    (hv : (visitAll world.animals).outcome start = (.ok visits, after)) :
    Stage world world.animals.length after :=
  stage_iff.mpr ⟨begun, start, hb, visits, by rw [List.take_length, hv]⟩

/-! ## The end of a tick -/

/-- Whether some newcomers were put into a world, after all who were there. -/
structure Peopled (world : World G) (newcomers : Array Animal) (after : World G) : Prop where
  roster : after.roster = world.roster ++ newcomers
  animals : after.animals = world.animals ++ List.range' world.roster.size newcomers.size
  births : after.births = world.births
  deaths : after.deaths = world.deaths
  tick : after.tick = world.tick

omit [Source G] in
/-- Newcomers leave everybody as they were. -/
theorem Peopled.getElem?_roster {newcomers : Array Animal} (h : Peopled world newcomers after)
    {id : Nat} (known : id < world.roster.size) : after.roster[id]? = world.roster[id]? := by
  rw [h.roster, Array.getElem?_append_left known]

omit [Source G] in
/-- Nobody needs to come. -/
theorem Peopled.refl (world : World G) : Peopled world #[] world :=
  ⟨Array.append_empty.symm, (List.append_nil _).symm, rfl, rfl, rfl⟩

/-- Settling puts newcomers into the world and returns their numbers. -/
theorem peopled_of_settle {count : Nat} {spawned : List Nat}
    (h : (settle count).outcome world = (.ok spawned, after)) :
    ∃ newcomers, spawned = List.range' world.roster.size newcomers.size ∧
      Peopled world newcomers after := by
  induction count generalizing world spawned with
  | zero =>
    cases h
    exact ⟨#[], rfl, .refl _⟩
  | succ count ih =>
    rw [settle] at h
    rcases exists_outcome_spawn world with ⟨-, full⟩ | ⟨newcomer, rng, born, -⟩
    · rw [Attempt.outcome_bind_of_ok full] at h
      cases h
      exact ⟨#[], rfl, .refl _⟩
    · rw [Attempt.outcome_bind_of_ok born] at h
      obtain ⟨others, last, hs, h⟩ := Attempt.outcome_bind_eq_ok_iff.mp h
      cases h
      obtain ⟨newcomers, rfl, peopled⟩ := ih hs
      have size : ((world.reseeded rng).settled newcomer).roster.size = world.roster.size + 1 :=
        Array.size_push newcomer
      have numbers : List.range' world.roster.size (#[newcomer] ++ newcomers).size =
          world.roster.size :: List.range' (world.roster.size + 1) newcomers.size := by
        rw [Array.size_append, Nat.add_comm]
        exact List.range'_succ
      refine ⟨#[newcomer] ++ newcomers, by rw [numbers, size], ?_, ?_, peopled.births,
        peopled.deaths, peopled.tick⟩
      · rw [peopled.roster, ← Array.append_assoc, ← Array.push_eq_append]
        rfl
      · rw [peopled.animals, size, numbers, List.append_cons]
        rfl

/-- Weeding out keeps the survivors in the list and clears the world. -/
theorem sifted_of_weedOut {removed : List Nat}
    (h : weedOut.outcome world = (.ok removed, after)) :
    ∃ survivors, Sifted world.roster world.animals survivors removed ∧
      Cleared { world with animals := survivors } after := by
  rw [weedOut, Attempt.outcome_bind_of_ok (Attempt.outcome_get world)] at h
  obtain ⟨⟨survivors, doomed⟩, sifted, hs, h⟩ := Attempt.outcome_bind_eq_ok_iff.mp h
  have altered := keeps_altered_sift onGround world.animals world (.refl world)
  rw [hs] at altered
  obtain ⟨_, _, rfl⟩ := altered.cleared
  cases h
  exact ⟨survivors, sifted_of_sift hs, _, _, rfl⟩

/-- A tick that comes to its end is one of visits to everybody in the list, of the removal of some
who are in the list then, and of newcomers after that. -/
theorem parts_of_chronicle {written : Chronicle}
    (h : chronicle.outcome world = (.ok written, after)) :
    ∃ begun start last survivors newcomers,
      beginTick.outcome world = (.ok begun, start) ∧
      (visitAll world.animals).outcome start = (.ok written.visits, last) ∧
      Sifted last.roster last.animals survivors written.removed ∧
      written.spawned = List.range' last.roster.size newcomers.size ∧
      Peopled { last with animals := survivors, deaths := last.deaths + written.removed.length }
        newcomers after := by
  obtain ⟨⟨ids, food⟩, start, hb, h⟩ := Attempt.outcome_bind_eq_ok_iff.mp h
  obtain ⟨visits, last, hv, h⟩ := Attempt.outcome_bind_eq_ok_iff.mp h
  obtain ⟨removed, thinned, hw, h⟩ := Attempt.outcome_bind_eq_ok_iff.mp h
  obtain ⟨rfl, -⟩ := begun_of_beginTick hb
  obtain ⟨survivors, sifted, _, _, rfl⟩ := sifted_of_weedOut hw
  rw [Attempt.outcome_bind_of_ok (Attempt.outcome_modify _ _),
    Attempt.outcome_bind_of_ok (Attempt.outcome_get _)] at h
  obtain ⟨spawned, settled, hs, h⟩ := Attempt.outcome_bind_eq_ok_iff.mp h
  obtain ⟨newcomers, numbers, peopled⟩ := peopled_of_settle hs
  obtain ⟨journal, reported⟩ := exists_outcome_reportTick removed.length spawned.length settled
  rw [Attempt.outcome_bind_of_ok reported] at h
  cases h
  exact ⟨_, start, last, survivors, newcomers, hb, hv, sifted, numbers, peopled.roster,
    peopled.animals, peopled.births, peopled.deaths, peopled.tick⟩

/-- At the end of a step, those in the list who were there after the last visit are as they were
then, and live. -/
theorem exists_last_of_step (h : step.outcome world = (.ok (), after)) :
    ∃ last, Stage world world.animals.length last ∧ last.roster.size ≤ after.roster.size ∧
      ∀ id < last.roster.size, id ∈ after.animals → ∃ animal,
        last.roster[id]? = some animal ∧ after.roster[id]? = some animal ∧ 1 ≤ animal.energy := by
  rw [step_eq_chronicle] at h
  obtain ⟨written, hc⟩ := exists_of_outcome_unit h
  obtain ⟨_, _, last, survivors, newcomers, hb, hv, sifted, -, peopled⟩ := parts_of_chronicle hc
  refine ⟨last, stage_of_visitAll hb hv, ?_, fun id known hid => ?_⟩
  · rw [peopled.roster, Array.size_append]
    exact Nat.le_add_right _ _
  · rw [peopled.animals] at hid
    rcases List.mem_append.mp hid with survives | new
    · obtain ⟨animal, ha, alive⟩ := sifted.alive survives
      exact ⟨animal, ha, (peopled.getElem?_roster known).trans ha, alive⟩
    · exact absurd known (Nat.not_lt.mpr (List.mem_range'_1.mp new).1)

end Vivarium.World
