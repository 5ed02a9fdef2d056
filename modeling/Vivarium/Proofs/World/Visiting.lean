import Vivarium.Proofs.World.Alteration

/-!
# Visits

What the visit that a tick pays to an animal does, in any world. Who is visited has a turn if it
lives, and loses energy in any case; everybody else stays as it is or is hit. Besides the child that
may be born at the end of the list, nobody comes or goes.
-/

namespace Vivarium

/-- An animal that was hit. -/
def Animal.downed (animal : Animal) : Animal :=
  { animal with energy := hitEnergy }

/-- An animal after the decay of a tick. -/
def Animal.decayed (animal : Animal) : Animal :=
  { animal with energy := animal.energy - energyDecay }

namespace World

variable {G : Type} [Source G]
variable {world middle after : World G} {id other : Nat} {seen : Visit}

/-! ## What a visit comes to -/

/-- How a visit that comes to its end leads from one world to another. -/
inductive Visited (id : Nat) (world : World G) : Visit → World G → Prop where
  /-- An animal that does not live loses energy. -/
  | missed {animal : Animal} (ha : world.roster[id]? = some animal) (dead : animal.energy < 1) :
    Visited id world .missed (world.changed id Animal.decayed)
  /-- An animal that waits loses energy. -/
  | waited {animal : Animal} (ha : world.roster[id]? = some animal) (alive : 1 ≤ animal.energy)
    (waits : 0 < animal.wait) :
    Visited id world .waited
      ((world.changed id fun animal => { animal with wait := animal.wait - 1 }).changed id
        Animal.decayed)
  /-- The program of an animal goes on, then the animal loses energy. -/
  | resumed {animal : Animal} {resumption : Resumption} {child : Option Nat} {middle : World G}
    (ha : world.roster[id]? = some animal) (alive : 1 ≤ animal.energy)
    (ready : animal.wait ≤ 0)
    (acted : Acted (ByAction id resumption.action) world (.ok child, middle)) :
    Visited id world (.resumed animal.program animal.execution resumption child)
      ((middle.changed id fun animal => { animal with execution := resumption.held }).changed id
        Animal.decayed)

omit [Source G] in
/-- What goes on after an animal was looked up goes on with an animal that is known. -/
theorem exists_of_animal_bind {α : Type} {next : Animal → Sim G α} {a : α}
    (h : (animal id >>= next).outcome world = (.ok a, after)) :
    ∃ animal, world.roster[id]? = some animal ∧ (next animal).outcome world = (.ok a, after) := by
  cases ha : world.roster[id]? with
  | none =>
    rw [animal, bind_assoc, Attempt.outcome_bind_of_ok (Attempt.outcome_get world), ha] at h
    cases h
  | some found =>
    rw [outcome_animal_bind ha] at h
    exact ⟨found, rfl, h⟩

/-- Proceeding leads along the alterations of the action that it returns. -/
theorem acted_of_proceed {program : Tree} {held : Option Execution} {resumption : Resumption}
    {child : Option Nat}
    (h : (proceed id program held).outcome world = (.ok (resumption, child), after)) :
    Acted (ByAction id resumption.action) world (.ok child, after) := by
  obtain ⟨animal, -, h⟩ := exists_of_animal_bind h
  rw [Attempt.outcome_bind_of_ok (Attempt.outcome_get world), outcome_liftM_bind] at h
  cases ho : advance (world.senses animal) program held with
  | error fault =>
    rw [ho] at h
    cases h
  | ok outcome =>
    rw [ho] at h
    cases outcome with
    | value v =>
      cases h
      exact .barren (.refl _) fun child hc => (Except.ok.inj hc).symm
    | request request waiting =>
      obtain ⟨born, acted, hc, h⟩ := Attempt.outcome_bind_eq_ok_iff.mp h
      cases h
      exact hc ▸ acted_enact id request world

/-- A visit that comes to its end is a turn of an animal that lives, and a decay in any case. -/
theorem exists_turned_of_visit (h : (visit id).outcome world = (.ok seen, after)) :
    ∃ animal turned, world.roster[id]? = some animal ∧ after = turned.changed id Animal.decayed ∧
      (1 ≤ animal.energy ∧ (takeTurn id).outcome world = (.ok seen, turned) ∨
        animal.energy < 1 ∧ seen = .missed ∧ turned = world) := by
  obtain ⟨animal, ha, h⟩ := exists_of_animal_bind h
  obtain ⟨turned, middle, ht, h⟩ := Attempt.outcome_bind_eq_ok_iff.mp h
  cases h
  refine ⟨animal, middle, ha, rfl, ?_⟩
  by_cases alive : 1 ≤ animal.energy
  · have lives : animal.isAlive = true := decide_eq_true alive
    rw [if_pos lives] at ht
    exact .inl ⟨alive, ht⟩
  · have dead : ¬animal.isAlive = true := mt of_decide_eq_true alive
    rw [if_neg dead] at ht
    cases ht
    exact .inr ⟨Int.not_le.mp alive, rfl, rfl⟩

/-- What a visit that comes to its end does. -/
theorem visited_of_visit (h : (visit id).outcome world = (.ok seen, after)) :
    Visited id world seen after := by
  obtain ⟨animal, turned, ha, rfl, ⟨alive, ht⟩ | ⟨dead, rfl, rfl⟩⟩ := exists_turned_of_visit h
  · obtain ⟨same, ha', ht⟩ := exists_of_animal_bind ht
    obtain rfl := Option.some.inj (ha'.symm.trans ha)
    by_cases waits : 0 < same.wait
    · rw [if_pos waits] at ht
      cases ht
      exact .waited ha alive waits
    · rw [if_neg waits, goOn, Attempt.outcome_tryCatch, Attempt.outcome_bind] at ht
      rcases hp : (proceed id same.program same.execution).outcome world with ⟨result, acted⟩
      rw [hp] at ht
      cases result with
      | error fault => cases ht
      | ok proceeded =>
        cases ht
        exact .resumed ha alive (Int.not_lt.mp waits) (acted_of_proceed hp)
  · exact .missed ha dead

/-! ## Who comes and goes -/

/-- How the list and the counters of a world grow by some children. -/
structure Growth (world : World G) (born : List Nat) (after : World G) : Prop where
  animals : after.animals = world.animals ++ born
  numbers : born = List.range' world.roster.size born.length
  size : after.roster.size = world.roster.size + born.length
  births : after.births = world.births + born.length
  deaths : after.deaths = world.deaths
  tick : after.tick = world.tick

omit [Source G] in
/-- Nobody is born in no time. -/
theorem Growth.refl (world : World G) : Growth world [] world :=
  ⟨(List.append_nil _).symm, rfl, rfl, rfl, rfl, rfl⟩

omit [Source G] in
/-- Further children may be born. -/
theorem Growth.trans {first second : List Nat} (h : Growth world first middle)
    (h' : Growth middle second after) : Growth world (first ++ second) after where
  animals := by rw [h'.animals, h.animals, List.append_assoc]
  numbers := by
    rw [List.length_append, ← List.range'_append_1, ← h.numbers, ← h.size, ← h'.numbers]
  size := by rw [h'.size, h.size, List.length_append, Nat.add_assoc]
  births := by rw [h'.births, h.births, List.length_append, Nat.add_assoc]
  deaths := h'.deaths.trans h.deaths
  tick := h'.tick.trans h.tick

omit [Source G] in
/-- Where an animal changes nobody is born. -/
theorem growth_changed (world : World G) (id : Nat) (change : Animal → Animal) :
    Growth world [] (world.changed id change) :=
  ⟨(List.append_nil _).symm, rfl, Array.size_modify, rfl, rfl, rfl⟩

/-- A birth is one of the next number. -/
theorem Alters.growth (h : Alters .birth world after) :
    Growth world [world.roster.size] after := by
  cases h
  exact ⟨rfl, rfl, Array.size_push _, rfl, rfl, rfl⟩

/-- By the alterations of an action nobody is born. -/
theorem Altered.growth {action : Option Action} (h : Altered (ByAction id action) world after) :
    Growth world [] after := by
  refine h.keeps (fun ok ha grown => ?_) (.refl world)
  have still (id : Nat) (change : Animal → Animal) := grown.trans (growth_changed _ id change)
  cases ha with
  | ground clears =>
    obtain ⟨_, _, rfl⟩ := clears
    exact ⟨grown.animals, grown.numbers, grown.size, grown.births, grown.deaths, grown.tick⟩
  | own id change _ _ => exact still id change
  | strike victim => exact still victim _
  | birth | founding | thinning | count | report => exact ok.elim

/-- What an action returns is born. -/
theorem Acted.growth {action : Option Action} {child : Option Nat}
    (h : Acted (ByAction id action) world (.ok child, after)) :
    Growth world child.toList after := by
  cases h with
  | barren altered nobody =>
    rw [nobody child rfl]
    exact altered.growth
  | bore altered birth =>
    have grown := altered.growth.trans birth.growth
    rwa [List.nil_append] at grown

/-- What a visit returns is born. -/
theorem Visited.growth (h : Visited id world seen after) :
    Growth world seen.child.toList after := by
  have still {middle : World G} {born : List Nat} (grown : Growth world born middle)
      (change : Animal → Animal) : Growth world born (middle.changed id change) := by
    have more := grown.trans (growth_changed middle id change)
    rwa [List.append_nil] at more
  cases h with
  | missed => exact still (.refl world) _
  | waited => exact still (still (.refl world) _) _
  | resumed _ _ _ acted => exact still (still acted.growth _) _

/-! ## Who is left alone -/

/-- Whether an animal is as it was, or was hit, which may be possible. -/
def Spared (hit : Prop) (other : Nat) (world after : World G) : Prop :=
  after.roster[other]? = world.roster[other]? ∨
    hit ∧ after.roster[other]? = world.roster[other]?.map Animal.downed

omit [Source G] in
/-- An animal that is spared twice is spared. -/
theorem Spared.trans {hit : Prop} (h : Spared hit other world middle)
    (h' : Spared hit other middle after) : Spared hit other world after := by
  rcases h' with same | ⟨hits, downed⟩
  · rwa [Spared, same]
  · refine .inr ⟨hits, downed.trans ?_⟩
    rcases h with same | ⟨-, before⟩
    · rw [same]
    · rw [before, Option.map_map]
      rfl

omit [Source G] in
/-- A change of another animal spares an animal. -/
theorem spared_changed {hit : Prop} (world : World G) (distinct : other ≠ id)
    (change : Animal → Animal) : Spared hit other world (world.changed id change) := by
  rw [Spared, roster_changed, if_neg distinct.symm]
  exact .inl rfl

/-- The alterations of an action spare everybody but the animal that acts. -/
theorem Altered.spared {action : Option Action} (h : Altered (ByAction id action) world after)
    (distinct : other ≠ id) : Spared (action = some .hit) other world after := by
  refine h.keeps (fun ok ha spared => ?_) (.inl rfl)
  cases ha with
  | ground clears =>
    obtain ⟨_, _, rfl⟩ := clears
    exact spared
  | own actor change _ _ =>
    obtain rfl : actor = id := ok
    exact spared.trans (spared_changed _ distinct change)
  | strike victim =>
    refine spared.trans ?_
    by_cases hit : other = victim
    · subst hit
      refine .inr ⟨ok, ?_⟩
      rw [roster_changed, if_pos rfl]
      rfl
    · exact spared_changed _ hit _
  | birth | founding | thinning | count | report => exact ok.elim

/-- An action spares everybody who was there but the animal that acts. -/
theorem Acted.spared {action : Option Action} {child : Option Nat}
    (h : Acted (ByAction id action) world (.ok child, after)) (distinct : other ≠ id)
    (known : other < world.roster.size) : Spared (action = some .hit) other world after := by
  cases h with
  | barren altered _ => exact altered.spared distinct
  | bore altered birth =>
    refine (altered.spared distinct).trans (.inl ?_)
    have size := altered.growth.size
    cases birth
    exact Array.getElem?_push_lt (Nat.lt_of_lt_of_eq known size.symm) |>.trans
      (Array.getElem?_eq_getElem _).symm

/-- A visit spares everybody who was there but the animal that is visited. -/
theorem Visited.spared (h : Visited id world seen after) (distinct : other ≠ id)
    (known : other < world.roster.size) : Spared (seen.action = some .hit) other world after := by
  have still {middle : World G} (spared : Spared (seen.action = some .hit) other world middle)
      (change : Animal → Animal) :
      Spared (seen.action = some .hit) other world (middle.changed id change) :=
    spared.trans (spared_changed middle distinct change)
  cases h with
  | missed => exact still (.inl rfl) _
  | waited => exact still (still (.inl rfl) _) _
  | resumed _ _ _ acted => exact still (still (acted.spared distinct known) _) _

/-- Whether an animal is the one given, or was hit since. -/
def Retains (world : World G) (id : Nat) (animal : Animal) : Prop :=
  world.roster[id]? = some animal ∨ world.roster[id]? = some animal.downed

omit [Source G] in
/-- An animal that is spared is retained. -/
theorem Spared.retains {hit : Prop} {animal : Animal} (h : Spared hit id world after)
    (retained : Retains world id animal) : Retains after id animal := by
  rcases h with same | ⟨-, downed⟩
  · rwa [Retains, same]
  · refine .inr (downed.trans ?_)
    rcases retained with found | found <;> rw [found] <;> rfl

omit [Source G] in
/-- An animal that is retained is known. -/
theorem Retains.lt_size {animal : Animal} (h : Retains world id animal) :
    id < world.roster.size := by
  rcases h with found | found <;> exact (Array.getElem?_eq_some_iff.mp found).1

/-! ## Rounds -/

/-- How visits that come to their ends lead from one world to another. -/
inductive Rounds : World G → List (Nat × Visit) → World G → Prop where
  /-- Nobody is visited. -/
  | nil {world : World G} : Rounds world [] world
  /-- One animal is visited, and then others. -/
  | cons {world middle after : World G} {id : Nat} {seen : Visit} {visits : List (Nat × Visit)}
    (first : Visited id world seen middle) (rest : Rounds middle visits after) :
    Rounds world ((id, seen) :: visits) after

/-- What visits one after the other do. -/
theorem rounds_of_visitAll {ids : List Nat} {visits : List (Nat × Visit)}
    (h : (visitAll ids).outcome world = (.ok visits, after)) :
    visits.map Prod.fst = ids ∧ Rounds world visits after := by
  induction ids generalizing world visits with
  | nil =>
    cases h
    exact ⟨rfl, .nil⟩
  | cons id ids ih =>
    obtain ⟨seen, middle, hv, h⟩ := Attempt.outcome_bind_eq_ok_iff.mp h
    obtain ⟨rest, last, hr, h⟩ := Attempt.outcome_bind_eq_ok_iff.mp h
    cases h
    obtain ⟨numbers, rounds⟩ := ih hr
    exact ⟨congrArg (id :: ·) numbers, .cons (visited_of_visit hv) rounds⟩

/-- What visits return is born. -/
theorem Rounds.growth {visits : List (Nat × Visit)} (h : Rounds world visits after) :
    Growth world (visits.filterMap (·.2.child)) after := by
  induction h with
  | nil => exact .refl _
  | @cons _ _ _ id seen visits first _ ih =>
    have parts : ((id, seen) :: visits).filterMap (·.2.child) =
        seen.child.toList ++ visits.filterMap (·.2.child) := by
      rw [List.filterMap_cons]
      cases seen.child <;> rfl
    exact parts ▸ first.growth.trans ih

/-- Visits spare everybody who was there and is not visited. -/
theorem Rounds.spared {visits : List (Nat × Visit)} (h : Rounds world visits after)
    (unvisited : other ∉ visits.map Prod.fst) (known : other < world.roster.size) :
    Spared True other world after := by
  induction h with
  | nil => exact .inl rfl
  | cons first _ ih =>
    rw [List.map_cons, List.mem_cons, not_or] at unvisited
    have later := first.growth.size
    refine Spared.trans ?_ (ih unvisited.2 (by omega))
    exact (first.spared unvisited.1 known).imp_right fun ⟨_, downed⟩ => ⟨trivial, downed⟩

end World

end Vivarium
