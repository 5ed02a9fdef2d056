import Vivarium.Proofs.World.Endurance
import Vivarium.Proofs.World.Stages

/-!
# The census of a tick

The list of a reachable world names known animals, each once. In a tick everybody in the list is
visited once, in order; afterwards the list consists of those of the old list, of the children born
and of the spawned who are left, in this order, and the counters tell how many came and went. So the
population of a run is accounted for.
-/

namespace Vivarium.World

variable {G : Type} [Source G]
variable {world after : World G} {id : Nat}

/-! ## The list -/

/-- Whether the list of a world names known animals, each once. -/
structure Enlisted (world : World G) : Prop where
  nodup : world.animals.Nodup
  known : ∀ id ∈ world.animals, id < world.roster.size

omit [Source G] in
/-- A newcomer is enlisted. -/
theorem Enlisted.settled (h : Enlisted world) (newcomer : Animal) :
    Enlisted (world.settled newcomer) where
  nodup := by
    refine List.nodup_append.mpr ⟨h.nodup, List.nodup_singleton _, fun id hid last hl => ?_⟩
    obtain rfl := List.mem_singleton.mp hl
    exact Nat.ne_of_lt (h.known id hid)
  known id hid := by
    have size : (world.settled newcomer).roster.size = world.roster.size + 1 :=
      Array.size_push newcomer
    rw [size]
    rcases List.mem_append.mp hid with old | new
    · exact Nat.lt_succ_of_lt (h.known id old)
    · exact Nat.lt_succ_of_le (Nat.le_of_eq (List.mem_singleton.mp new))

omit [Source G] in
/-- A change of an animal leaves the list. -/
theorem Enlisted.changed (h : Enlisted world) (id : Nat) (change : Animal → Animal) :
    Enlisted (world.changed id change) :=
  ⟨h.nodup, fun other ho => Nat.lt_of_lt_of_eq (h.known other ho) Array.size_modify.symm⟩

omit [Source G] in
/-- Who comes with the next numbers is not in the list. -/
theorem Enlisted.nodup_append (h : Enlisted world) (count : Nat) :
    (world.animals ++ List.range' world.roster.size count).Nodup := by
  refine List.nodup_append.mpr ⟨h.nodup, List.nodup_range', fun id hid next hn => ?_⟩
  exact Nat.ne_of_lt (Nat.lt_of_lt_of_le (h.known id hid) (List.mem_range'_1.mp hn).1)

/-- An alteration leaves known animals in the list, each once. -/
theorem Alters.enlisted {alteration : Alteration} (ha : Alters alteration world after)
    (h : Enlisted world) : Enlisted after := by
  cases ha with
  | ground clears =>
    obtain ⟨_, _, rfl⟩ := clears
    exact ⟨h.nodup, h.known⟩
  | own id change => exact h.changed id change
  | strike victim => exact h.changed victim _
  | @birth _ _ newborn => exact ⟨(h.settled newborn).nodup, (h.settled newborn).known⟩
  | founding => exact h.settled _
  | thinning sub => exact ⟨h.nodup.sublist sub, fun id hid => h.known id (sub.subset hid)⟩
  | count | report => exact ⟨h.nodup, h.known⟩

/-- The list of a reachable world names known animals, each once. -/
theorem enlisted_of_reachable {admits : Int → Int → Settings → Prop}
    (hr : Reachable admits world) : Enlisted world := by
  obtain ⟨_, _, _, _, start, he, altered⟩ := exists_altered_of_reachable hr
  obtain ⟨-, -, rfl⟩ := empty_eq_ok_iff.mp he
  exact altered.keeps (fun _ ha => ha.enlisted) ⟨List.nodup_nil, nofun⟩

/-! ## Survivors -/

section

variable {roster : Array Animal} {ids survivors removed : List Nat}

omit [Source G] in
/-- Everybody survives or is removed. -/
theorem Sifted.length_add (h : Sifted roster ids survivors removed) :
    survivors.length + removed.length = ids.length := by
  induction h with
  | nil => rfl
  | stay _ _ _ ih =>
    simp only [List.length_cons]
    omega
  | go _ ih =>
    simp only [List.length_cons]
    omega

omit [Source G] in
/-- Who is removed was there, in the same order. -/
theorem Sifted.removed_sublist (h : Sifted roster ids survivors removed) :
    removed.Sublist ids := by
  induction h with
  | nil => exact .slnil
  | stay _ _ _ ih => exact ih.cons _
  | go _ ih => exact ih.cons_cons _

omit [Source G] in
/-- Who is out of energy is removed. -/
theorem Sifted.mem_removed (h : Sifted roster ids survivors removed) (hid : id ∈ ids)
    {animal : Animal} (ha : roster[id]? = some animal) (dead : animal.energy < 1) :
    id ∈ removed := by
  induction h with
  | nil => contradiction
  | @stay other living _ _ _ ho alive _ ih =>
    rcases List.mem_cons.mp hid with rfl | later
    · rw [ha, Option.some.injEq] at ho
      rw [ho] at dead
      exact absurd alive (Int.not_le.mpr dead)
    · exact ih later
  | go _ ih =>
    rcases List.mem_cons.mp hid with rfl | later
    · exact List.mem_cons_self
    · exact List.mem_cons_of_mem _ (ih later)

omit [Source G] in
/-- Who is not removed survives, in the same order. -/
theorem Sifted.survivors_eq (h : Sifted roster ids survivors removed) (nodup : ids.Nodup) :
    survivors = ids.filter (· ∉ removed) := by
  induction h with
  | nil => rfl
  | @stay id _ ids survivors removed _ _ rest ih =>
    rw [List.nodup_cons] at nodup
    have kept : id ∉ removed := fun gone => nodup.1 (rest.removed_sublist.subset gone)
    rw [List.filter_cons_of_pos (by simpa using kept), ← ih nodup.2]
  | @go id ids survivors removed rest ih =>
    rw [List.nodup_cons] at nodup
    rw [List.filter_cons_of_neg (by simp), ih nodup.2]
    refine List.filter_congr fun other ho => ?_
    have distinct : other ≠ id := fun same => nodup.1 (same ▸ ho)
    simp [distinct]

end

/-! ## The account of a tick -/

/-- What the chronicle of a tick tells about the worlds before and after it. -/
structure Accounted (world : World G) (written : Chronicle) (after : World G) : Prop where
  /-- Everybody in the list is visited, in the order of the list. -/
  visited : written.visits.map Prod.fst = world.animals
  /-- Nobody is in the list twice, so nobody is visited twice. -/
  once : world.animals.Nodup
  /-- Before the first visit, nobody changes. -/
  begun : ∃ start, Stage world 0 start ∧ start.roster = world.roster
  /-- Who is visited has a turn if it has energy, and loses one energy in any case. Nobody else
  loses energy but by a hit. -/
  visit : ∀ count id seen, written.visits[count]? = some (id, seen) →
    ∃ before turned animal, Stage world count before ∧ before.roster[id]? = some animal ∧
      (seen.isTurn = true ↔ 1 ≤ animal.energy) ∧
      (if 1 ≤ animal.energy then (takeTurn id).outcome before = (.ok seen, turned)
        else turned = before) ∧
      Stage world (count + 1) (turned.changed id Animal.decayed) ∧
      ∀ other < before.roster.size, other ≠ id →
        Spared (seen.action = some .hit) other before turned
  /-- Who is born in the tick is as it was at its birth until the end, unless it was hit. -/
  newborn : ∀ count id seen child, written.visits[count]? = some (id, seen) →
    seen.child = some child → child ∉ world.animals ∧
      ∃ moment newborn, Stage world (count + 1) moment ∧ moment.roster[child]? = some newborn ∧
        Retains after child newborn
  /-- After the last visit, nobody changes. -/
  ended : ∃ last, Stage world world.animals.length last ∧
    ∀ id < last.roster.size, after.roster[id]? = last.roster[id]?
  /-- Who is left of the list, then who is left of the children, then who was spawned. -/
  animals : after.animals = world.animals.filter (· ∉ written.removed) ++
    written.born.filter (· ∉ written.removed) ++ written.spawned
  /-- Nobody is there twice. -/
  nodup : (world.animals ++ written.born ++ written.spawned).Nodup
  /-- Who is removed was in the list or was born, and is not removed twice. -/
  removed : written.removed.Sublist (world.animals ++ written.born)
  /-- Who was in the list or was born, and is not removed, lives. -/
  alive : ∀ id ∈ world.animals ++ written.born, id ∉ written.removed →
    ∃ animal, after.roster[id]? = some animal ∧ 1 ≤ animal.energy
  /-- The births grow by the children. -/
  births : after.births = world.births + written.born.length
  /-- The deaths grow by the removed. -/
  deaths : after.deaths = world.deaths + written.removed.length
  /-- One tick is over. -/
  tick : after.tick = world.tick + 1
  /-- The population grows by the children and the spawned, and shrinks by the removed. -/
  population : after.animals.length + written.removed.length =
    world.animals.length + written.born.length + written.spawned.length

/-- Whether an animal had a turn tells whether it had energy. -/
theorem Visited.isTurn_iff {seen : Visit} {animal : Animal} (h : Visited id world seen after)
    (ha : world.roster[id]? = some animal) : seen.isTurn = true ↔ 1 ≤ animal.energy := by
  cases h with
  | missed ha' dead =>
    obtain rfl := Option.some.inj (ha'.symm.trans ha)
    exact iff_of_false Bool.false_ne_true (Int.not_le.mpr dead)
  | waited ha' alive | resumed ha' alive =>
    obtain rfl := Option.some.inj (ha'.symm.trans ha)
    exact iff_of_true rfl alive

/-- A visit of a tick that comes to its end is accounted for. -/
theorem visit_accounted {before next : World G} {seen : Visit}
    (hv : (visit id).outcome before = (.ok seen, next)) :
    ∃ turned animal, before.roster[id]? = some animal ∧
      (seen.isTurn = true ↔ 1 ≤ animal.energy) ∧
      (if 1 ≤ animal.energy then (takeTurn id).outcome before = (.ok seen, turned)
        else turned = before) ∧
      next = turned.changed id Animal.decayed ∧
      ∀ other < before.roster.size, other ≠ id →
        Spared (seen.action = some .hit) other before turned := by
  have visited := visited_of_visit hv
  obtain ⟨animal, turned, ha, rfl, turns⟩ := exists_turned_of_visit hv
  refine ⟨turned, animal, ha, visited.isTurn_iff ha, ?_, rfl, fun other known distinct => ?_⟩
  · rcases turns with ⟨alive, ht⟩ | ⟨dead, -, same⟩
    · rwa [if_pos alive]
    · rwa [if_neg (Int.not_le.mpr dead)]
  · have spared := visited.spared distinct known
    rwa [Spared, roster_changed, if_neg distinct.symm] at spared

/-- A child is retained from its birth until the last visit. -/
theorem exists_newborn {before next last : World G} {count child : Nat}
    (birth : Growth before [child] next) (stage : Stage world (count + 1) next)
    (final : Stage world world.animals.length last) (visits : count < world.animals.length)
    (unlisted : child ∉ world.animals) :
    ∃ newborn, next.roster[child]? = some newborn ∧ Retains last child newborn := by
  have number : child = before.roster.size := (List.cons.inj birth.numbers).1
  have below : child < next.roster.size := by
    rw [number, birth.size]
    exact Nat.lt_succ_self _
  have unvisited : child ∉ (world.animals.take world.animals.length).drop (count + 1) :=
    fun visited => unlisted (List.mem_of_mem_take (List.mem_of_mem_drop visited))
  have found := Array.getElem?_eq_getElem below
  exact ⟨_, found, stage.retains final visits unvisited (.inl found)⟩

/-- A tick that comes to its end is accounted for by its chronicle. -/
theorem accounted_of_chronicle (h : Enlisted world) {written : Chronicle}
    (hc : chronicle.outcome world = (.ok written, after)) : Accounted world written after := by
  obtain ⟨begun, start, last, survivors, newcomers, hb, hv, sifted, spawned, peopled⟩ :=
    parts_of_chronicle hc
  have stages {count id : Nat} {seen : Visit} (hs : written.visits[count]? = some (id, seen)) :=
    exists_stages_of_visitAll hb hv hs
  have first : Stage world 0 start := stage_iff.mpr ⟨begun, start, hb, [], rfl⟩
  have final := stage_of_visitAll hb hv
  obtain ⟨visited, rounds⟩ := rounds_of_visitAll hv
  obtain ⟨-, _, _, rfl⟩ := begun_of_beginTick hb
  have growth : Growth _ written.born last := rounds.growth
  have numbers : written.born = List.range' world.roster.size written.born.length := growth.numbers
  have listed : last.animals = world.animals ++ written.born := growth.animals
  have size : last.roster.size = world.roster.size + written.born.length := growth.size
  have kept {id : Nat} (known : id < last.roster.size) : after.roster[id]? = last.roster[id]? :=
    peopled.getElem?_roster known
  have nodup : (world.animals ++ written.born ++ written.spawned).Nodup := by
    rw [spawned, size, numbers, List.length_range', List.append_assoc, List.range'_append_1]
    exact h.nodup_append _
  have lived := (List.nodup_append.mp nodup).1
  rw [listed] at sifted
  have survive := sifted.survivors_eq lived
  have animals : after.animals = survivors ++ written.spawned := by
    rw [peopled.animals, spawned]
  exact {
    visited
    once := h.nodup
    begun := ⟨_, first, rfl⟩
    visit count id seen hs := by
      obtain ⟨before, next, stage, hn, stage'⟩ := stages hs
      obtain ⟨turned, animal, ha, turns, taken, rfl, spared⟩ := visit_accounted hn
      exact ⟨before, turned, animal, stage, ha, turns, taken, stage', spared⟩
    newborn count id seen child hs hb := by
      obtain ⟨before, next, -, hn, stage'⟩ := stages hs
      have born : child ∈ written.born := List.mem_filterMap.mpr ⟨_, List.mem_of_getElem? hs, hb⟩
      have unlisted : child ∉ world.animals := fun listed =>
        (List.nodup_append.mp lived).2.2 child listed child born rfl
      have birth := (visited_of_visit hn).growth
      rw [hb] at birth
      have visits : count < world.animals.length := by
        rw [← visited, List.length_map]
        exact (List.getElem?_eq_some_iff.mp hs).1
      obtain ⟨newborn, found, retained⟩ := exists_newborn birth stage' final visits unlisted
      have same := kept retained.lt_size
      rw [Retains, ← same] at retained
      exact ⟨unlisted, next, newborn, stage', found, retained⟩
    ended := ⟨last, final, fun _ => kept⟩
    animals := by rw [animals, survive, List.filter_append]
    nodup
    removed := sifted.removed_sublist
    alive id hid stays := by
      have survives : id ∈ survivors := by
        rw [survive]
        exact List.mem_filter.mpr ⟨hid, decide_eq_true stays⟩
      obtain ⟨animal, ha, alive⟩ := sifted.alive survives
      exact ⟨animal, (kept (Array.getElem?_eq_some_iff.mp ha).1).trans ha, alive⟩
    births := peopled.births.trans growth.births
    deaths := peopled.deaths.trans (congrArg (· + written.removed.length) growth.deaths)
    tick := peopled.tick.trans growth.tick
    population := by
      have parts := sifted.length_add
      rw [animals, List.length_append]
      rw [List.length_append] at parts
      omega }

/-! ## The account of a run -/

/-- What the chronicles of ticks one after the other tell. -/
inductive Recorded : World G → List Chronicle → World G → Prop where
  /-- No tick passes. -/
  | nil {world : World G} : Recorded world [] world
  /-- One tick passes, and then others. -/
  | cons {world middle after : World G} {written : Chronicle} {others : List Chronicle}
    (first : Accounted world written middle) (rest : Recorded middle others after) :
    Recorded world (written :: others) after

/-- All animals that were spawned in some ticks. -/
def spawnedIn (written : List Chronicle) : List Nat :=
  written.flatMap (·.spawned)

/-- The ticks of a run that comes to its end are accounted for by their chronicles. -/
theorem recorded_of_chronicles {count : Nat} (hr : Reachable Anywhere world)
    {written : List Chronicle} (h : (chronicles count).outcome world = (.ok written, after)) :
    written.length = count ∧ Recorded world written after := by
  induction count generalizing world written with
  | zero =>
    cases h
    exact ⟨rfl, .nil⟩
  | succ count ih =>
    obtain ⟨first, middle, hf, h⟩ := Attempt.outcome_bind_eq_ok_iff.mp h
    obtain ⟨others, last, ho, h⟩ := Attempt.outcome_bind_eq_ok_iff.mp h
    cases h
    have reachable : Reachable Anywhere middle := by
      have steps := hr.stepped
      rwa [step_eq_chronicle, Attempt.outcome_bind_of_ok hf] at steps
    obtain ⟨length, recorded⟩ := ih reachable ho
    exact ⟨congrArg (· + 1) length,
      .cons (accounted_of_chronicle (enlisted_of_reachable hr) hf) recorded⟩

/-- In a run the ticks are counted. -/
theorem Recorded.tick {written : List Chronicle} (h : Recorded world written after) :
    after.tick = world.tick + written.length := by
  induction h with
  | nil => rfl
  | cons first _ ih =>
    rw [ih, first.tick, List.length_cons]
    omega

/-- In a run the population grows by the births and the spawned and shrinks by the deaths. -/
theorem Recorded.population {written : List Chronicle} (h : Recorded world written after) :
    after.animals.length + after.deaths + world.births =
      world.animals.length + world.deaths + after.births + (spawnedIn written).length := by
  induction h with
  | nil => rfl
  | @cons _ _ _ written others first _ ih =>
    have births := first.births
    have deaths := first.deaths
    have population := first.population
    have spawned : (spawnedIn (written :: others)).length =
        written.spawned.length + (spawnedIn others).length := List.length_append
    omega

/-- Whether nothing has been counted yet. -/
structure Uncounted (world : World G) : Prop where
  births : world.births = 0
  deaths : world.deaths = 0
  tick : world.tick = 0

/-- A created world has counted nothing yet. -/
theorem uncounted_of_create {width height : Int} {seed : Option Int} {rng : G} {population : Int}
    {settings : Settings} (hc : create width height seed rng population settings = .ok world) :
    Uncounted world := by
  obtain ⟨start, he, furnished⟩ := exists_altered_of_create hc
  obtain ⟨-, -, rfl⟩ := empty_eq_ok_iff.mp he
  refine furnished.keeps (fun ok ha counters => ?_) ⟨rfl, rfl, rfl⟩
  cases ha with
  | ground clears =>
    obtain ⟨_, _, rfl⟩ := clears
    exact ⟨counters.births, counters.deaths, counters.tick⟩
  | founding | report => exact ⟨counters.births, counters.deaths, counters.tick⟩
  | own | strike | birth | thinning | count => exact ok.elim

/-- A created world with a cell and the food of settings that are not tuned goes on for any number
of ticks up to two to the power of a thousand. -/
theorem exists_steps_of_create {width height : Int} (hw : 1 ≤ width) (hh : 1 ≤ height)
    {seed : Option Int} {rng : G} {population : Int} {settings : Settings}
    (hr : settings.blobRadius = ({} : Settings).blobRadius)
    (hf : settings.maxFood = ({} : Settings).maxFood)
    (hc : create width height seed rng population settings = .ok world) {count : Nat}
    (few : count ≤ 2 ^ 1000) : ∃ last, (steps count).outcome world = (.ok (), last) := by
  obtain ⟨found, created, thrives⟩ := exists_create hw hh seed rng population hr hf
  obtain rfl : found = world := Except.ok.inj (created.symm.trans hc)
  have room : 0 + count ≤ 2 ^ 1000 := (Nat.zero_add count).trans_le few
  obtain ⟨last, outcome, -⟩ := exists_outcome_steps count thrives room
  exact ⟨last, outcome⟩

/-- A tick is accounted for. Its chronicle, which can be written down along with it, tells that
everybody in the list is visited once, in order; just those with energy have a turn then, and
everybody who is visited loses one energy. Nobody else loses energy but by a hit, so the children
born in the tick do not. Afterwards the list consists of those of the old list who are left, of the
children who are left, in the order of their births, and of the spawned. The births are counted by
the children, the deaths by the removed. In a run that comes to its end, which has a chronicle for
each tick, the population therefore grows by the births and by all who are spawned, and shrinks by
the deaths. A world that was created starts from no births and no deaths, and with the food of
settings that are not tuned its runs come to their ends. -/
theorem ticks_accounted (hr : Reachable Anywhere world) :
    (∀ id, (turn id : Sim G Unit) = (do let _ ← takeTurn id)) ∧
      (step : Sim G Unit) = (do let _ ← chronicle) ∧
      (∀ after, step.outcome world = (.ok (), after) →
        ∃ written, chronicle.outcome world = (.ok written, after) ∧
          Accounted world written after) ∧
      (∀ count last, (steps count).outcome world = (.ok (), last) →
        ∃ written, (chronicles count).outcome world = (.ok written, last) ∧
          written.length = count ∧ Recorded world written last ∧
          last.tick = world.tick + count ∧
          last.animals.length + last.deaths + world.births =
            world.animals.length + world.deaths + last.births + (spawnedIn written).length) ∧
      ∀ width height seed rng population settings,
        create width height seed rng population settings = .ok world → Uncounted world ∧
          (1 ≤ width → 1 ≤ height → settings.blobRadius = ({} : Settings).blobRadius →
            settings.maxFood = ({} : Settings).maxFood →
            ∀ count ≤ 2 ^ 1000, ∃ last, (steps count).outcome world = (.ok (), last)) := by
  refine ⟨turn_eq, step_eq_chronicle, fun after hs => ?_, fun count last hs => ?_,
    fun _ _ _ _ _ _ hc => ⟨uncounted_of_create hc, fun hw hh radius food count few =>
      exists_steps_of_create hw hh radius food hc few⟩⟩
  · rw [step_eq_chronicle] at hs
    obtain ⟨written, hc⟩ := exists_of_outcome_unit hs
    exact ⟨written, hc, accounted_of_chronicle (enlisted_of_reachable hr) hc⟩
  · rw [steps_eq_chronicles] at hs
    obtain ⟨written, hc⟩ := exists_of_outcome_unit hs
    obtain ⟨length, recorded⟩ := recorded_of_chronicles hr hc
    exact ⟨written, hc, length, recorded, length ▸ recorded.tick, recorded.population⟩

/-- A thousand ticks of a small world with five animals are accounted for. -/
theorem ticks_accounted_thousand :
    ∃ world last : World Generator, ∃ written,
      create 3 2 (some 7) (Generator.ofSeed 7) 5 {} = .ok world ∧
        (chronicles 1000).outcome world = (.ok written, last) ∧ written.length = 1000 ∧
        last.animals.length + last.deaths =
          world.animals.length + last.births + (spawnedIn written).length := by
  have wide : (1 : Int) ≤ 3 := by decide
  have high : (1 : Int) ≤ 2 := by decide
  have anywhere : Anywhere 3 2 {} := trivial
  have few (count : Nat) : count ≤ 2 ^ count := Nat.lt_two_pow_self.le
  have radius : ({} : Settings).blobRadius = ({} : Settings).blobRadius := rfl
  obtain ⟨world, created, -⟩ := exists_create wide high (some 7) (Generator.ofSeed 7) 5 radius rfl
  obtain ⟨-, -, -, runs, starts⟩ := ticks_accounted (.created anywhere created)
  obtain ⟨uncounted, lasts⟩ := starts 3 2 (some 7) (Generator.ofSeed 7) 5 {} created
  obtain ⟨last, outcome⟩ := lasts wide high radius rfl 1000 (few 1000)
  obtain ⟨written, chronicled, length, -, -, balance⟩ := runs 1000 last outcome
  rw [uncounted.births, uncounted.deaths] at balance
  exact ⟨world, last, written, created, chronicled, length, balance⟩

end Vivarium.World
