import Vivarium.Proofs.Evolution.Totality
import Vivarium.Proofs.World.Bodies
import Vivarium.Proofs.World.Health

/-!
# Resilience

No program makes an interpreter fail as long as its lists are empty or headed by atoms and its
numbers are whole. Heads may name no operator, arguments may be missing or of any kind, and counts
and percentages may be anything. The world needs to be occupied by animals whose bodies have all
their cells, and is so again after every resumption.
-/

namespace Vivarium.World

variable {G : Type} {world after : World G} {id : Nat} {ids : List Nat} {roster : Array Animal}
  {animal : Animal}

/-! ## Intact worlds -/

/-- Whether the bodies of some animals have all their cells. -/
def Bodied (ids : List Nat) (roster : Array Animal) : Prop :=
  ∀ id ∈ ids, ∀ animal, roster[id]? = some animal → animal.body.Roomy

/-- Whether the animals of its list occupy a world, and their bodies have all their cells. -/
structure Intact (world : World G) : Prop where
  occupied : Occupied world
  bodied : Bodied world.animals world.roster

/-- Bodies stay whole when an animal is changed and keeps its body. -/
theorem Bodied.modify (h : Bodied ids roster) (id : Nat) {change : Animal → Animal}
    (body : ∀ animal, (change animal).body = animal.body) :
    Bodied ids (roster.modify id change) := by
  intro other ho found hf
  rw [Array.getElem?_modify] at hf
  split at hf
  · obtain ⟨before, hb, rfl⟩ := Option.map_eq_some_iff.mp hf
    rw [body]
    exact h other ho before hb
  · exact h other ho found hf

/-- An animal with a whole body may join others with whole bodies. -/
theorem Bodied.push (h : Bodied ids roster) {newcomer : Animal} (room : newcomer.body.Roomy) :
    Bodied (ids ++ [roster.size]) (roster.push newcomer) := by
  intro other ho found hf
  rw [Array.getElem?_push] at hf
  split at hf
  · cases hf
    exact room
  · rename_i old
    refine h other ?_ found hf
    simpa [old] using ho

variable [Source G]

/-- Every world that is reached from one that can be lived in is intact. -/
theorem intact_of_reachable (h : Reachable Habitable world) : Intact world where
  occupied := occupied_of_reachable h
  bodied _ _ _ ha := (heritage_of_reachable hereditary_valid h _ (Array.mem_of_getElem? ha)).1.roomy

/-- A child can inherit from an animal with a whole body, and gets a whole body. -/
theorem exists_roomy_legacy (world : World G) (h : animal.body.Roomy) :
    ∃ inherited rng, world.legacy animal = (.ok inherited, rng) ∧ inherited.body.Roomy :=
  exists_roomy_inherit h animal.program animal.color world.settings.mutation world.rng

/-- A deed leaves an intact world. -/
theorem Deed.intact (hd : Deed world id animal after) (h : Intact world) (hid : id ∈ world.animals)
    (ha : world.roster[id]? = some animal) : Intact after := by
  refine ⟨hd.occupancy h.occupied hid ha, ?_⟩
  have same {change : Animal → Animal} (body : ∀ animal, (change animal).body = animal.body) :
      Bodied world.animals (world.roster.modify id change) := h.bodied.modify id body
  cases hd with
  | idle => exact h.bodied
  | left | right | step | graze | strain => exact same fun _ => rfl
  | strike victim target =>
    rw [struck, filled_eq]
    have hit : Bodied world.animals (world.roster.modify victim
        fun animal => { animal with energy := Animal.hitEnergy }) :=
      h.bodied.modify victim fun _ => rfl
    have waits : Bodied world.animals ((world.roster.modify victim
        fun animal => { animal with energy := Animal.hitEnergy }).modify id
          fun animal => { animal with wait := Animal.waitHit }) := hit.modify id fun _ => rfl
    exact waits
  | bear percentage kept given inherited rng hopen hp hi hs =>
    obtain ⟨child, last, outcome, room⟩ := exists_roomy_legacy world (h.bodied id hid animal ha)
    rw [hi, Prod.mk.injEq, Except.ok.injEq] at outcome
    have parents : Bodied world.animals (world.roster.modify id fun parent =>
        { parent with energy := kept, wait := Animal.waitFork }) := same fun _ => rfl
    have size : (world.roster.modify id fun parent =>
        { parent with energy := kept, wait := Animal.waitFork }).size = world.roster.size :=
      Array.size_modify
    have whole : (World.child animal (world.grid.wrapped animal.front) given inherited).body.Roomy :=
      outcome.1 ▸ room
    -- The child gets the next number, which the change of the parent leaves as it was.
    have joined := parents.push whole
    rw [size] at joined
    exact joined

/-! ## Points of an evaluation -/

/-- What can be held of the evaluation of a program: nothing at first, and then what resumptions
leave, each in any intact world and for any animal of its list. -/
inductive Point (G : Type) [Source G] (program : Tree) : Option Execution → Prop where
  /-- Nothing is held. -/
  | start : Point G program none
  /-- The program was resumed. -/
  | next {world after : World G} {id : Nat} {held : Option Execution} {resumption : Resumption}
    (h : Point G program held) (intact : Intact world) (hid : id ∈ world.animals)
    (hr : (resume id program held).outcome world = (.ok resumption, after)) :
    Point G program resumption.held

variable {program : Tree} {held : Option Execution}

/-- What a plain program leaves is plain. -/
theorem plain_of_resume (hp : Plain program) (hh : Execution.Plain held) (h : Resident id world)
    {resumption : Resumption}
    (hr : (resume id program held).outcome world = (.ok resumption, after)) :
    Execution.Plain resumption.held := by
  obtain ⟨animal, ha, -⟩ := h.occupied.known id h.listed
  obtain ⟨outcome, advanced, plain⟩ := comes_advance (h.sound ha) hp hh
  cases outcome with
  | value v =>
    rw [outcome_resume_of_value ha advanced] at hr
    cases hr
    exact trivial
  | request request waiting =>
    rw [outcome_resume_of_request ha advanced] at hr
    generalize (perform id request).outcome world = performed at hr
    obtain ⟨result, last⟩ := performed
    cases result with
    | error fault => cases hr
    | ok _ =>
      cases hr
      exact plain.2

/-- At every point of its evaluation a plain program is plain. -/
theorem Point.plain (hp : Plain program) (h : Point G program held) : Execution.Plain held := by
  induction h with
  | start => exact trivial
  | next _ intact hid hr ih => exact plain_of_resume hp ih ⟨intact.occupied, hid⟩ hr

/-- A resumption of a plain program succeeds in an intact world if the energy of the animal can be
split, and leaves an intact world with the animal. -/
theorem exists_outcome_resume (hp : Plain program) (hh : Execution.Plain held) (h : Intact world)
    (hid : id ∈ world.animals) (ha : world.roster[id]? = some animal) (alive : 0 ≤ animal.energy)
    (hs : Splittable animal.energy) :
    ∃ resumption after, (resume id program held).outcome world = (.ok resumption, after) ∧
      Intact after ∧ id ∈ after.animals := by
  have resident : Resident id world := ⟨h.occupied, hid⟩
  obtain ⟨outcome, advanced, plain⟩ := comes_advance (resident.sound ha) hp hh
  cases outcome with
  | value v => exact ⟨_, _, outcome_resume_of_value ha advanced, h, hid⟩
  | request request waiting =>
    obtain ⟨inherited, rng, hi, -⟩ := exists_roomy_legacy world (h.bodied id hid animal ha)
    obtain ⟨after, performed⟩ :=
      exists_outcome_perform resident ha ⟨inherited, rng, hi⟩ alive hs plain.1
    have deed := deed_perform h.occupied hid ha request
    have resumed := outcome_resume_of_request ha advanced
    rw [performed] at deed resumed
    exact ⟨_, after, resumed, deed.intact h hid ha, deed.subset hid⟩

/-- An energy up to ten to the power of three hundred can be split. -/
theorem splittable_of_le {energy : Int} (h : energy ≤ 10 ^ 300) : Splittable energy := by
  have bound : ((10 ^ 300 : Int) : Rat) ≤ 2 ^ (1010 : Int) := calc
    ((10 ^ 300 : Int) : Rat) = (10 ^ 3) ^ 100 := by rw [Int.cast_pow, ← pow_mul, Int.cast_ofNat]
    _ ≤ (2 ^ 10) ^ 100 := by
      gcongr
      norm_num
    _ = 2 ^ (1000 : Int) := by rw [← pow_mul, zpow_ofNat]
    _ ≤ 2 ^ (1010 : Int) := zpow_le_zpow_right₀ (by norm_num) (by norm_num)
  exact Splittable.mono bound h

/-- A quotient in a program is that of its operands, truncated toward zero, or zero if the divisor
is zero. -/
theorem evaluate_divide {senses : Senses} {dividend divisor : Tree} {m n : Int}
    (hm : evaluate senses dividend = .ok (.value (.number (.int m))))
    (hn : evaluate senses divisor = .ok (.value (.number (.int n)))) :
    evaluate senses (Tree.apply (.arithmetic .divide) [dividend, divisor]) =
      .ok (.value (.number (.int (if n = 0 then 0 else m.tdiv n)))) := by
  have quotient : (Combination.arithmetic .divide).apply (.number (.int m)) (.number (.int n)) =
      .ok (.number (.int (if n = 0 then 0 else m.tdiv n))) := by
    refine bind_eq_ok_iff.mpr ⟨_, ?_, rfl⟩
    exact bind_eq_ok_iff.mpr ⟨_, quotient_int m n, rfl⟩
  have lookup : (Tree.symbol (Operator.arithmetic .divide).name).lookup =
      .ok (some (.arithmetic .divide)) := by decide
  have first : evaluateArgument senses [dividend, divisor] 0 = .ok (.value (.number (.int m))) := by
    rw [evaluateArgument, hm]
  have second : evaluateArgument senses [dividend, divisor] 1 = .ok (.value (.number (.int n))) := by
    rw [evaluateArgument, evaluateArgument, hn]
  rw [evaluate]
  refine bind_eq_ok_iff.mpr ⟨_, lookup, ?_⟩
  refine bind_eq_ok_iff.mpr ⟨_, first, ?_⟩
  refine bind_eq_ok_iff.mpr ⟨_, second, ?_⟩
  exact bind_eq_ok_iff.mpr ⟨_, quotient, rfl⟩

/-- No odd program breaks the interpreter. Take any tree whose lists are empty or headed by an atom
and whose numbers are whole, any point of its evaluation, and any animal of an intact world with
positive energy up to ten to the power of three hundred. The resumption comes to something, at
another point of the evaluation, and leaves an intact world in which the animal still is. All
reachable worlds are intact. Quotients of integers are truncated toward zero, and zero for a zero
divisor. -/
theorem resumption_succeeds (hp : Plain program) (hh : Point G program held) (h : Intact world)
    (hid : id ∈ world.animals) (ha : world.roster[id]? = some animal) (alive : 0 < animal.energy)
    (small : animal.energy ≤ 10 ^ 300) :
    (∃ resumption after, (resume id program held).outcome world = (.ok resumption, after) ∧
      Point G program resumption.held ∧ Intact after ∧ id ∈ after.animals) ∧
    (∀ w : World G, Reachable Habitable w → Intact w) ∧
    ∀ (senses : Senses) (dividend divisor : Tree) (m n : Int),
      evaluate senses dividend = .ok (.value (.number (.int m))) →
      evaluate senses divisor = .ok (.value (.number (.int n))) →
      evaluate senses (Tree.apply (.arithmetic .divide) [dividend, divisor]) =
        .ok (.value (.number (.int (if n = 0 then 0 else m.tdiv n)))) := by
  obtain ⟨resumption, after, outcome, intact, stays⟩ :=
    exists_outcome_resume hp (hh.plain hp) h hid ha alive.le (splittable_of_le small)
  exact ⟨⟨resumption, after, outcome, .next hh h hid outcome, intact, stays⟩,
    fun _ => intact_of_reachable, fun _ _ _ _ _ => evaluate_divide⟩

/-- An animal on a small empty world forks by a percentage that divides nil by nothing. -/
theorem resumption_succeeds_fork :
    ∃ (world after : World Generator) (resumption : Resumption), Intact world ∧
      (resume 0 (Tree.apply (.action .fork) [Tree.apply (.arithmetic .divide) [.nil]]) none).outcome
        world = (.ok resumption, after) ∧ Intact after ∧ 0 ∈ after.animals := by
  have empty : World.empty 3 2 (Generator.ofSeed 7) {} =
      .ok { grid := Grid.empty 3 2, rng := Generator.ofSeed 7, settings := {} } := rfl
  have ground := occupied_of_empty (habitable_default (by decide) (by decide)) empty
  have sound : ({ cell := ⟨0, 0⟩ } : Animal).Sound :=
    ⟨by decide, by decide, by decide, by decide, by decide⟩
  have inside : (Grid.empty 3 2).Inside ⟨0, 0⟩ := ⟨by decide, by decide, by decide, by decide⟩
  have nobody : Bodied [] #[] := fun _ hid => absurd hid List.not_mem_nil
  have intact : Intact
      (({ grid := Grid.empty 3 2, rng := Generator.ofSeed 7, settings := {} } :
        World Generator).settled { cell := ⟨0, 0⟩ }) :=
    ⟨ground.place sound inside rfl, nobody.push Sprite.square_standard.roomy⟩
  have plain : Plain (Tree.apply (.action .fork) [Tree.apply (.arithmetic .divide) [.nil]]) := by
    refine .form _ fun t ht => ?_
    rw [List.mem_singleton.mp ht]
    exact .form _ fun u hu => List.mem_singleton.mp hu ▸ .atom trivial
  have small : (200 : Int) ≤ 10 ^ 300 :=
    le_trans (by decide : (200 : Int) ≤ 10 ^ 3) (pow_le_pow_right₀ (by decide) (by decide))
  obtain ⟨⟨resumption, after, outcome, -, left, stays⟩, -⟩ :=
    resumption_succeeds plain .start intact (List.mem_singleton_self 0) rfl (by decide) small
  exact ⟨_, after, resumption, intact, outcome, left, stays⟩

end Vivarium.World
