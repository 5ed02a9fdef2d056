import Vivarium.Proofs.World.Population
import Vivarium.Proofs.World.Striking

/-!
# Victims

A hit is final. From the hit to the end of the visits of its tick the victim lies on its cell, out
of energy and else as it was, whatever the others do and also if a fault stops one of them. When its
turn comes it only loses energy, its cell is free for nobody, and what its energy left on the ground
is not left there again. The removal of the dead takes it away without a draw, and counts it once.
-/

namespace Vivarium.World

variable {G : Type} {world middle after : World G} {id other victim : Nat} {animal target : Animal}

/-! ## Lying on a cell -/

/-- Whether an animal of the list is out of energy and else like the one given. -/
structure Fallen (world : World G) (id : Nat) (animal : Animal) : Prop where
  listed : id ∈ world.animals
  spent : ∃ energy < 1, world.roster[id]? = some { animal with energy }

namespace Fallen

/-- Nothing but the list and the roster matters. -/
theorem congr (h : Fallen world id animal) (animals : after.animals = world.animals)
    (roster : after.roster = world.roster) : Fallen after id animal :=
  ⟨animals ▸ h.listed, roster ▸ h.spent⟩

/-- A change of another animal does not matter. -/
theorem changed (h : Fallen world id animal) (distinct : other ≠ id) (change : Animal → Animal) :
    Fallen (world.changed other change) id animal := by
  obtain ⟨energy, low, found⟩ := h.spent
  refine ⟨h.listed, energy, low, ?_⟩
  rw [roster_changed, if_neg distinct, found]

/-- Losing energy leaves an animal where it lies. -/
theorem decayed (h : Fallen world id animal) :
    Fallen (world.changed id Animal.decayed) id animal := by
  obtain ⟨energy, low, found⟩ := h.spent
  refine ⟨h.listed, energy - Animal.energyDecay, ?_, ?_⟩
  · simp only [Animal.energyDecay]
    omega
  · rw [roster_changed, if_pos rfl, found]
    rfl

/-- A hit, on whomever, leaves an animal where it lies. -/
theorem downed (h : Fallen world id animal) (victim : Nat) :
    Fallen (world.changed victim Animal.downed) id animal := by
  by_cases same : victim = id
  · obtain ⟨energy, -, found⟩ := h.spent
    refine ⟨h.listed, Animal.hitEnergy, by decide, ?_⟩
    rw [roster_changed, if_pos same, found]
    rfl
  · exact h.changed same _

/-- A newcomer leaves an animal where it lies. -/
theorem settled (h : Fallen world id animal) (newcomer : Animal) :
    Fallen (world.settled newcomer) id animal := by
  obtain ⟨energy, low, found⟩ := h.spent
  have known := (Array.getElem?_eq_some_iff.mp found).1
  refine ⟨List.mem_append_left _ h.listed, energy, low, ?_⟩
  rw [← found]
  exact (Array.getElem?_push_lt known).trans (Array.getElem?_eq_getElem known).symm

end Fallen

/-! ## What others do -/

section

variable [Source G]

/-- The alterations that an animal can make in its turn. -/
def InTurn (id : Nat) : Alteration → Prop
  | .ground | .strike _ | .birth => True
  | .own other => other = id
  | _ => False

/-- What others do in their turns leaves an animal where it lies. -/
theorem Fallen.altered (h : Fallen world id animal) (distinct : other ≠ id)
    (ha : Altered (InTurn other) world after) : Fallen after id animal := by
  have each {alteration : Alteration} {before next : World G} (ok : InTurn other alteration)
      (alters : Alters alteration before next) (fallen : Fallen before id animal) :
      Fallen next id animal := by
    cases alters with
    | ground clears =>
      obtain ⟨_, _, rfl⟩ := clears
      exact fallen.congr rfl rfl
    | own actor change =>
      obtain rfl : actor = other := ok
      exact fallen.changed distinct change
    | strike victim => exact fallen.downed victim
    | @birth _ _ newborn => exact (fallen.settled newborn).congr rfl rfl
    | founding | thinning | count | report => exact ok.elim
  exact ha.keeps each h

/-- Whatever another animal is asked to do leaves an animal where it lies. -/
theorem keeps_fallen_perform (distinct : other ≠ id) (request : Request) :
    Attempt.Keeps (fun world => Fallen world id animal) (perform other request : Sim G Unit) := by
  have carries : Attempt.Keeps (fun world => Fallen world id animal)
      (enact other request : Sim G (Option Nat)) := by
    intro world h
    refine h.altered distinct ((acted_enact other request world).altered ?_ trivial)
    intro alteration
    cases alteration with
    | own actor => exact fun ok => ok
    | ground | strike => exact fun _ => trivial
    | birth | founding | thinning | count | report => exact False.elim
  rw [perform_eq]
  exact carries.bind fun _ => Attempt.keeps_pure _

/-- The turn of another animal leaves an animal where it lies, also if a fault stops it. -/
theorem keeps_fallen_turn (distinct : other ≠ id) :
    Attempt.Keeps (fun world => Fallen world id animal) (turn other : Sim G Unit) := by
  have changes (change : Animal → Animal) : Attempt.Keeps (fun world => Fallen world id animal)
      (changeAnimal other change : Sim G Unit) := fun _ h => h.changed distinct change
  refine (keeps_animal other).bind fun actor => ?_
  split
  · exact changes _
  · have resumes : Attempt.Keeps (fun world => Fallen world id animal)
        (resume other actor.program actor.execution : Sim G Resumption) := by
      refine (keeps_animal other).bind fun _ => Attempt.keeps_get.bind fun _ => ?_
      refine (Attempt.keeps_ofExcept _).bind fun outcome => ?_
      cases outcome with
      | value v => exact Attempt.keeps_pure _
      | request request waiting =>
        exact (keeps_fallen_perform distinct request).bind fun _ => Attempt.keeps_pure _
    refine Attempt.Keeps.tryCatch (resumes.bind fun _ => changes _) fun fault => ?_
    exact (changes _).bind fun _ => Attempt.keeps_throw _

/-- When the turn of an animal without energy comes, it loses energy and nothing else happens. -/
theorem Fallen.outcome_turns (h : Fallen world id animal) (ids : List Nat) :
    (turns (id :: ids)).outcome world =
      (turns ids).outcome (world.changed id Animal.decayed) := by
  obtain ⟨energy, low, found⟩ := h.spent
  have gone : ¬({ animal with energy } : Animal).isAlive = true :=
    mt of_decide_eq_true (Int.not_le.mpr low)
  rw [turns, outcome_animal_bind found, if_neg gone]
  rfl

/-- Turns leave an animal where it lies, its own as well as those of others. -/
theorem keeps_fallen_turns (ids : List Nat) :
    Attempt.Keeps (fun world => Fallen world id animal) (turns ids : Sim G Unit) := by
  induction ids with
  | nil => exact Attempt.keeps_pure _
  | cons other ids ih =>
    by_cases same : other = id
    · subst same
      intro world h
      rw [h.outcome_turns]
      exact ih _ h.decayed
    · have decays : Attempt.Keeps (fun world => Fallen world id animal) (do
          changeAnimal other fun animal =>
            { animal with energy := animal.energy - Animal.energyDecay }
          turns ids : Sim G Unit) :=
        Attempt.Keeps.bind (fun _ h => h.changed same _) fun _ => ih
      refine (keeps_animal other).bind fun actor => ?_
      dsimp only
      split
      · exact (keeps_fallen_turn same).bind fun _ => decays
      · exact decays

end

/-! ## What is left of it -/

namespace Fallen

/-- The cell of an animal that lies there is free for nobody. -/
theorem taken (h : Fallen world id animal) (occupied : Occupied world) :
    world.occupied[animal.cell]? = some id ∧
      (isFree animal.cell).outcome world = (.ok false, world) := by
  obtain ⟨energy, -, found⟩ := h.spent
  have here : world.occupied[animal.cell]? = some id :=
    (occupied.map _ _).mpr ⟨h.listed, _, found, rfl⟩
  obtain ⟨-, inside, -⟩ := occupied.stands h.listed found
  refine ⟨here, ?_⟩
  rw [outcome_isFree_of_inside inside, isOpen, Std.ExtTreeMap.contains_eq_isSome_getElem?, here]
  simp

/-- A hit on an animal that lies there leaves nothing on the ground. -/
theorem grid_hit (h : Fallen world id animal) (occupied : Occupied world) {hitter : Animal}
    (ha : world.roster[other]? = some hitter)
    (ahead : world.occupied[world.grid.wrapped hitter.front]? = some id) :
    ((hit other).outcome world).2.grid = world.grid := by
  obtain ⟨energy, low, found⟩ := h.spent
  rw [outcome_hit occupied ha, ahead]
  dsimp only
  rw [found]
  change (world.filled _ energy).grid = world.grid
  rw [filled, if_pos (.inr (by omega))]

variable [Source G]

/-- An animal that lies there goes without a draw. -/
theorem outcome_isDoomed (h : Fallen world id animal) :
    (isDoomed id).outcome world = (.ok true, world) := by
  obtain ⟨energy, low, found⟩ := h.spent
  rw [isDoomed, outcome_animal_bind found, if_pos low]
  rfl

end Fallen

/-! ## Stages -/

section

variable [Source G] {before moment later last : World G} {count further : Nat}

/-- At every stage of a tick the animals of the list occupy the ground. -/
theorem Stage.occupied (h : Stage world count moment) (occupied : Occupied world) :
    Occupied moment := by
  have kept := keeps_occupied_beginTurns count world occupied
  rwa [h] at kept

/-- The turns in between lead from a stage to a later one. -/
theorem Stage.outcome_turns (h : Stage world count moment) (h' : Stage world further later)
    (le : count ≤ further) :
    (turns ((world.animals.take further).drop count)).outcome moment = (.ok (), later) := by
  obtain ⟨visits, hv⟩ := h.exists_visits h' le
  rw [turns_eq, Attempt.outcome_bind_of_ok hv]
  rfl

/-- A turn of the next animal of the list leads to the next stage. -/
theorem Stage.next_of_turns (h : Stage world count moment)
    (listed : world.animals[count]? = some id)
    (ht : (turns [id]).outcome moment = (.ok (), later)) : Stage world (count + 1) later := by
  rw [turns_eq] at ht
  obtain ⟨visits, hv⟩ := exists_of_outcome_unit ht
  obtain ⟨seen, next, hn, hv⟩ := Attempt.outcome_bind_eq_ok_iff.mp hv
  cases hv
  exact h.next listed hn

/-- Who lies on a cell at a stage lies there at all later ones. -/
theorem Stage.fallen (h : Stage world count moment) (fallen : Fallen moment id animal)
    (h' : Stage world further later) (le : count ≤ further) : Fallen later id animal := by
  have kept := keeps_fallen_turns ((world.animals.take further).drop count) moment fallen
  rwa [h.outcome_turns h' le] at kept

/-- If the last turn of a tick comes to its end, so does the tick. -/
theorem Stage.exists_chronicle (final : Stage world world.animals.length last)
    (occupied : Occupied world) :
    ∃ written after, step.outcome world = (.ok (), after) ∧
      chronicle.outcome world = (.ok written, after) := by
  obtain ⟨begun, start, hb, visits, hv⟩ := stage_iff.mp final
  obtain ⟨listed, -⟩ := begun_of_beginTick hb
  obtain ⟨removed, middle, removes, -⟩ := exists_outcome_removeDead (final.occupied occupied)
  have turned : (turns begun.1).outcome start = (.ok (), last) := by
    rw [List.take_length] at hv
    rw [listed, turns_eq, Attempt.outcome_bind_of_ok hv]
    rfl
  have reached : untilRemoved.outcome world = (.ok removed, middle) := by
    rw [untilRemoved, Attempt.outcome_bind_of_ok hb, Attempt.outcome_bind_of_ok turned, removes]
  obtain ⟨after, steps, -⟩ := exists_outcome_step_of_untilRemoved occupied reached
  have chronicles := steps
  rw [step_eq_chronicle] at chronicles
  obtain ⟨written, hc⟩ := exists_of_outcome_unit chronicles
  exact ⟨written, after, steps, hc⟩

/-! ## The hit -/

/-- An animal whose program asks for a hit carries it out in its turn. -/
theorem outcome_turns_of_hit (occupied : Occupied before) (ha : before.roster[id]? = some animal)
    (alive : 1 ≤ animal.energy) (ready : animal.wait ≤ 0) {waiting : List Frame}
    (asks : advance (before.senses animal) animal.program animal.execution =
      .ok (.request (.act .hit) waiting))
    (hv : before.occupied[before.grid.wrapped animal.front]? = some victim)
    (ht : before.roster[victim]? = some target) :
    (turns [id]).outcome before =
      (.ok (), ((before.struck id victim (before.grid.wrapped animal.front) target.energy).changed
        id fun animal => { animal with execution := some (.suspended waiting) }).changed id
          Animal.decayed) := by
  have living : animal.isAlive = true := decide_eq_true alive
  have hits : (perform id (.act .hit)).outcome before =
      (.ok (), before.struck id victim (before.grid.wrapped animal.front) target.energy) := by
    have outcome := outcome_hit occupied ha
    rw [hv] at outcome
    dsimp only at outcome
    rwa [ht] at outcome
  have turned := outcome_turn_of_request ha ready asks hits
  rw [turns, outcome_animal_bind ha, if_pos living, Attempt.outcome_bind_of_ok turned]
  rfl

omit [Source G] in
/-- Who is hit by another animal lies where it stood. -/
theorem fallen_struck (listed : victim ∈ world.animals) (ht : world.roster[victim]? = some target)
    (apart : victim ≠ id) (cell : Cell) (energy : Int) :
    Fallen (world.struck id victim cell energy) victim target := by
  refine ⟨?_, Animal.hitEnergy, by decide, ?_⟩
  · rw [struck_eq]
    exact listed
  · simp only [roster_struck, if_neg (Ne.symm apart), if_true, ht]
    rfl

/-! ## The removal -/

/-- Sorting out some animals and then others is sorting out all of them. -/
theorem sortOut_append (first second : List Nat) :
    (sortOut (first ++ second) : Sim G (List Nat × Nat)) = (do
      let (survivors, removed) ← sortOut first
      let (others, more) ← sortOut second
      return (survivors ++ others, removed + more)) := by
  induction first with
  | nil =>
    simp only [List.nil_append, sortOut, pure_bind, Nat.zero_add]
    exact (bind_pure _).symm
  | cons id first ih =>
    simp only [List.cons_append, sortOut, ih, bind_assoc]
    refine bind_congr fun doomed => ?_
    split
    · simp only [bind_assoc, pure_bind, Nat.add_right_comm]
    · simp only [bind_assoc, pure_bind, List.cons_append]

/-- How the removal of the dead, from the world after the last turn on, comes to an animal: it goes
without a draw, and leaves nothing on the ground. -/
structure Removal (last middle : World G) (id : Nat) (animal : Animal) : Prop where
  /-- The animals before it in the list are sorted out, and then the animal and the others. -/
  reached : ∃ kept rest survivors removed, last.animals = kept ++ id :: rest ∧
    (sortOut kept).outcome last = (.ok (survivors, removed), middle) ∧
    (sortOut last.animals).outcome last =
      (do
        let (others, more) ← sortOut (id :: rest)
        return (survivors ++ others, removed + more) : Sim G (List Nat × Nat)).outcome middle
  /-- It goes, and the source of random numbers is left as it is. -/
  doomed : (isDoomed id).outcome middle = (.ok true, middle)
  /-- It leaves nothing on the ground. -/
  nothing : ∃ energy, middle.roster[id]? = some { animal with energy } ∧
    (addFood animal.cell energy).outcome middle = (.ok 0, middle)

/-- The removal of the dead comes to everybody who lies on a cell. -/
theorem Fallen.exists_removal (h : Fallen last id animal) (occupied : Occupied last) :
    ∃ middle, Removal last middle id animal := by
  obtain ⟨kept, rest, split⟩ := List.append_of_mem h.listed
  have pending : Occupancy (id :: rest ++ kept) last :=
    Occupancy.perm occupied (split ▸ List.perm_append_comm)
  obtain ⟨survivors, removed, middle, sorted, runs, ⟨land, map, hm⟩, -⟩ :=
    exists_outcome_sortOut (id :: rest) pending
  have lies : Fallen middle id animal := by
    rw [hm]
    exact h.congr rfl rfl
  obtain ⟨energy, low, found⟩ := lies.spent
  have member : id ∈ id :: rest ++ survivors := List.mem_append_left _ List.mem_cons_self
  obtain ⟨-, inside, -⟩ := (runs.occupancy pending).stands member found
  refine ⟨middle, ⟨kept, rest, survivors, removed, split, sorted, ?_⟩, lies.outcome_isDoomed,
    energy, found, outcome_addFood_of_nonpos inside (by omega)⟩
  rw [split, sortOut_append, Attempt.outcome_bind_of_ok sorted]

/-- What a completed tick tells about an animal that it takes away. -/
structure Counted (world : World G) (written : Chronicle) (after : World G) (id : Nat) : Prop where
  /-- It is removed once. -/
  once : written.removed.count id = 1
  /-- The deaths grow by the number of the removed. -/
  deaths : after.deaths = world.deaths + written.removed.length
  /-- It is not in the list any more. -/
  gone : id ∉ after.animals
  /-- It is on no cell any more. -/
  nowhere : ∀ cell : Cell, after.occupied[cell]? ≠ some id

/-- Whoever lies on a cell after the last turn is counted among the removed of the tick. -/
theorem Fallen.counted (h : Fallen last id animal) (reachable : Reachable Habitable world)
    (final : Stage world world.animals.length last) {written : Chronicle}
    (hc : chronicle.outcome world = (.ok written, after)) : Counted world written after id := by
  obtain ⟨_, _, turned, survivors, newcomers, hb, hv, sifted, -, peopled⟩ := parts_of_chronicle hc
  have stage := stage_of_visitAll hb hv
  obtain ⟨-, rfl⟩ := Prod.mk.inj (stage.symm.trans final)
  obtain ⟨energy, low, found⟩ := h.spent
  have occupied := occupied_of_reachable reachable
  have distinct := (final.occupied occupied).nodup.sublist sifted.removed_sublist
  have gone : id ∉ after.animals := by
    rw [peopled.animals]
    intro stays
    rcases List.mem_append.mp stays with survives | new
    · obtain ⟨living, ha, alive⟩ := sifted.alive survives
      rw [found, Option.some.injEq] at ha
      rw [← ha] at alive
      exact absurd low (Int.not_lt.mpr alive)
    · have known := (Array.getElem?_eq_some_iff.mp found).1
      exact absurd known (Nat.not_lt.mpr (List.mem_range'_1.mp new).1)
  have ended : Occupied after := by
    have kept := keeps_occupied_step world occupied
    rwa [step_eq_chronicle, Attempt.outcome_bind_of_ok hc] at kept
  exact {
    once := List.count_eq_one_of_mem distinct (sifted.mem_removed h.listed found low)
    deaths := (accounted_of_chronicle (enlisted_of_reachable reachable) hc).deaths
    gone
    nowhere := fun cell here => gone ((ended.map cell id).mp here).1 }

/-! ## A hit is final -/

/-- What becomes of a victim at a stage of a tick after the hit. -/
structure Inert (world : World G) (place : Nat) (later : World G) (victim : Nat)
    (target : Animal) : Prop where
  /-- It lies on its cell, out of energy and else as it was. -/
  fallen : Fallen later victim target
  /-- It is the one on its cell, so nobody moves there or forks onto it. -/
  taken : later.occupied[target.cell]? = some victim ∧
    (isFree target.cell).outcome later = (.ok false, later)
  /-- If its turn comes next, it loses energy, and that is all that happens. -/
  passed : world.animals[place]? = some victim → (turns [victim]).outcome later =
    (.ok (), later.changed victim fun animal => { animal with energy := animal.energy - 1 })
  /-- Whoever has the next turn leaves it lying there, also if a fault stops the turn. -/
  others : ∀ other, world.animals[place]? = some other →
    Fallen ((turns [other]).outcome later).2 victim target
  /-- A further hit on it leaves nothing more on the ground. -/
  spent : ∀ other hitter, later.roster[other]? = some hitter →
    later.occupied[later.grid.wrapped hitter.front]? = some victim →
    ((hit other).outcome later).2.grid = later.grid

/-- A hit is final. In a step of a world that is reached, let an animal hit another one in its turn,
be it one that had its turn already, one whose turn is to come, or one that was born in this tick.
The energy of the victim beyond zero is added to the food on its cell, up to the greatest amount.
Whatever happens from the hit to the end of the turns, and also if a fault stops them, the victim
stays where it was, out of energy and not resumed, its cell is not free, and further hits on it
leave nothing on the ground. If the last turn comes to its end, so does the tick. The victim is
removed in it without a draw, leaves nothing on the ground again, and is counted once among the
deaths. -/
theorem hit_final (h : Reachable Habitable world) (stage : Stage world count before)
    (listed : world.animals[count]? = some id) (ha : before.roster[id]? = some animal)
    (alive : 1 ≤ animal.energy) (ready : animal.wait ≤ 0) {waiting : List Frame}
    (asks : advance (before.senses animal) animal.program animal.execution =
      .ok (.request (.act .hit) waiting))
    (hv : before.occupied[before.grid.wrapped animal.front]? = some victim)
    (apart : victim ≠ id) :
    ∃ target moment,
      before.roster[victim]? = some target ∧
      target.cell = before.grid.wrapped animal.front ∧
      (turns [id]).outcome before = (.ok (), moment) ∧
      Stage world (count + 1) moment ∧
      (∀ cell, before.grid.Inside cell → moment.grid.valueAt cell =
        if cell = target.cell then
          min before.settings.maxFood (before.grid.valueAt cell + max 0 target.energy)
        else before.grid.valueAt cell) ∧
      (∀ further later, count < further → Stage world further later →
        Inert world further later victim target) ∧
      ∀ last, Stage world world.animals.length last →
        (∃ middle, Removal last middle victim target) ∧
        ∃ written after, step.outcome world = (.ok (), after) ∧
          chronicle.outcome world = (.ok written, after) ∧
          Counted world written after victim := by
  have reached := occupied_of_reachable h
  have occupied := stage.occupied reached
  obtain ⟨member, target, ht, place⟩ := (occupied.map _ _).mp hv
  obtain ⟨-, inside, clear⟩ := occupied.stands member ht
  have turned := outcome_turns_of_hit occupied ha alive ready asks hv ht
  have next := stage.next_of_turns listed turned
  have fallen := ((fallen_struck member ht apart (before.grid.wrapped animal.front)
    target.energy).changed (Ne.symm apart)
      fun animal => { animal with execution := some (.suspended waiting) }).changed
        (Ne.symm apart) Animal.decayed
  have lies {further : Nat} {later : World G} (lt : count < further)
      (stage' : Stage world further later) : Fallen later victim target :=
    next.fallen fallen stage' lt
  refine ⟨target, _, ht, place, turned, next, fun cell here => ?_,
    fun further later lt stage' => ?_, fun last final => ?_⟩
  · rw [← place]
    change (before.filled target.cell target.energy).grid.valueAt cell = _
    rw [valueAt_filled occupied inside clear _ here]
    split
    case isTrue same => rw [same]
    case isFalse => rfl
  · have still := lies lt stage'
    have ground := stage'.occupied reached
    exact {
      fallen := still
      taken := still.taken ground
      passed := fun _ => by rw [still.outcome_turns]; rfl
      others := fun other _ => keeps_fallen_turns [other] later still
      spent := fun other hitter hh ahead => still.grid_hit ground hh ahead }
  · have below := (List.getElem?_eq_some_iff.mp listed).1
    have still := lies below final
    obtain ⟨written, after, steps, hc⟩ := final.exists_chronicle reached
    exact ⟨still.exists_removal (final.occupied reached), written, after, steps, hc,
      still.counted h final hc⟩

end

/-! ## An ambush -/

/-- A source with which a mutation of the standard program makes an animal hit where it would eat.
-/
structure Lure where
  /-- The numbers that were drawn. -/
  drawn : Nat

instance : Source Lure where
  unit lure := (.finite (if lure.drawn < 15 ∧ lure.drawn % 3 ≠ 2 then 1 / 2 else 1 / 4),
    ⟨lure.drawn + 1⟩)
  below bound h lure := (⟨if bound = 6 then 0 else bound - 1, by split <;> omega⟩, lure)

/-- Settings with which nothing but the programs of children is left to chance. -/
def ambushSettings : Settings where
  maxFood := 1000
  minPopulation := 0
  blobChance := .int 0
  blobRadius := 2
  cullChance := .int 0
  mutation := { body := .int 0, program := .int 1 }

/-- A world with two cells and a lot of food, in which an animal has borne a child that is about to
hit it. -/
def ambush : World Lure :=
  let start : World Lure := { grid := Grid.empty 2 1, rng := ⟨0⟩, settings := ambushSettings }
  ((steps 52).outcome (addRandomBlob.outcome (spawn.outcome start).2).2).2

/-- The action that the program of an animal asks for, if it asks for one. -/
def asked (world : World G) (id : Nat) : Option Action := do
  let animal ← world.roster[id]?
  match advance (world.senses animal) animal.program animal.execution with
  | .ok (.request request _) => some request.action
  | _ => none

/-- An animal that asks for a hit is known, and its program comes to that request. -/
theorem exists_of_asked (h : world.asked id = some .hit) :
    ∃ animal waiting, world.roster[id]? = some animal ∧
      advance (world.senses animal) animal.program animal.execution =
        .ok (.request (.act .hit) waiting) := by
  obtain ⟨animal, found, h⟩ := Option.bind_eq_some_iff.mp h
  split at h
  case h_1 request waiting comes =>
    cases request with
    | act action =>
      obtain rfl : action = .hit := Option.some.inj h
      exact ⟨animal, waiting, found, comes⟩
    | fork => cases h
  case h_2 => cases h

/-- In the small world the child hits its parent, which had its turn just before. -/
theorem hit_final_ambush :
    ∃ (before after : World Lure) (animal : Animal) (waiting : List Frame) (written : Chronicle),
      Reachable Habitable ambush ∧ Stage ambush 1 before ∧ before.roster[1]? = some animal ∧
      advance (before.senses animal) animal.program animal.execution =
        .ok (.request (.act .hit) waiting) ∧
      before.occupied[before.grid.wrapped animal.front]? = some 0 ∧
      step.outcome ambush = (.ok (), after) ∧ chronicle.outcome ambush = (.ok written, after) ∧
      written.removed.count 0 = 1 ∧ 0 ∉ after.animals := by
  have habitable : Habitable 2 1 ambushSettings := ⟨by decide, by decide, by decide, by decide⟩
  have reachable : Reachable Habitable ambush :=
    ((Reachable.empty habitable rfl).spawned.fed).steps 52
  obtain ⟨begun, number, two, asked, scene⟩ :
      let moment := (beginTurns 1).outcome ambush
      moment.1 = .ok ambush.animals ∧ ambush.animals[1]? = some 1 ∧ ambush.animals.length = 2 ∧
        moment.2.asked 1 = some .hit ∧
        moment.2.roster[1]?.map (fun animal => (animal.energy, animal.wait,
          moment.2.occupied[moment.2.grid.wrapped animal.front]?)) = some (194, 0, some 0) := by
    decide +kernel
  generalize hb : ((beginTurns 1).outcome ambush).2 = before at *
  have stage : Stage ambush 1 before := Prod.ext begun hb
  obtain ⟨animal, waiting, found, asks⟩ := exists_of_asked asked
  rw [found, Option.map_some, Option.some.injEq, Prod.mk.injEq, Prod.mk.injEq] at scene
  obtain ⟨energy, wait, ahead⟩ := scene
  obtain ⟨target, moment, -, -, -, final, -, -, ends⟩ :=
    hit_final reachable stage number found (by omega) (by omega) asks ahead (by decide)
  obtain ⟨-, written, after, steps, hc, counted⟩ := ends moment (two ▸ final)
  exact ⟨before, after, animal, waiting, written, reachable, stage, found, asks, ahead, steps, hc,
    counted.once, counted.gone⟩

end Vivarium.World
