import Vivarium.Proofs.Number.Range
import Vivarium.Proofs.World.Hermit
import Vivarium.Proofs.World.Resilience

/-!
# Forks

A fork is all or nothing. If the cell ahead is blocked, the parent has to wait and that is all. If
it is open, one child appears there, last in the order of the turns, with the heading of the parent
and what it inherits, and the two share what a fork leaves of the energy. This takes an energy in the
range of doubles, which every energy of three hundred digits is.
-/

namespace Vivarium

/-- The integer that a value without a fraction counts as, and zero if it is no number. -/
def Atom.count : Atom → Int
  | .number (.int n) => n
  | .bool b => if b then 1 else 0
  | _ => 0

/-- The percentage that a fork uses for a value without a fraction. -/
def Atom.percentage (value : Atom) : Int :=
  max 3 (min 97 value.count)

/-- A value without a fraction is always brought within the bounds. -/
theorem clampPercentage_number? {value : Atom} (whole : ∀ x, value ≠ .number (.double x)) :
    clampPercentage value.number? = .ok value.percentage := by
  match value with
  | .nil | .bool _ | .symbol _ | .number (.int _) => rfl
  | .number (.double x) => exact absurd rfl (whole x)

/-- The percentage of a fork is within its bounds. -/
theorem Atom.percentage_bounds (value : Atom) : 3 ≤ value.percentage ∧ value.percentage ≤ 97 := by
  rw [percentage]
  omega

namespace World

variable {G : Type} {world : World G} {id : Nat} {parent : Animal}

/-- A cell with an obstacle or an animal is not open. -/
theorem not_isOpen_of_blocked {cell : Cell}
    (h : world.grid.valueAt cell < 0 ∨ ∃ other, world.occupied[cell]? = some other) :
    ¬world.isOpen cell = true := by
  intro hopen
  rcases h with obstacle | ⟨other, taken⟩
  · have food := food_of_isOpen hopen
    omega
  · rw [occupied_eq_none hopen] at taken
    contradiction

/-- A cell with neither an obstacle nor an animal is open. -/
theorem isOpen_of_free {cell : Cell} (clear : 0 ≤ world.grid.valueAt cell)
    (free : world.occupied[cell]? = none) : world.isOpen cell = true := by
  rw [isOpen, Bool.and_eq_true, Bool.not_eq_true', decide_eq_true_eq,
    Std.ExtTreeMap.contains_eq_isSome_getElem?, free]
  exact ⟨clear, rfl⟩

/-- A fork changes the parent and adds the child, and no other animal. -/
theorem roster_borne (world : World G) (id : Nat) (newborn : Animal) (kept : Int) (rng : G)
    (other : Nat) :
    (world.borne id newborn kept rng).roster[other]? =
      if other = world.roster.size then some newborn
      else if other = id then
        world.roster[id]?.map fun parent => { parent with energy := kept, wait := Animal.waitFork }
      else world.roster[other]? := by
  have size : (world.roster.modify id fun parent =>
      { parent with energy := kept, wait := Animal.waitFork }).size = world.roster.size :=
    Array.size_modify
  change ((world.roster.modify id _).push newborn)[other]? = _
  rw [Array.getElem?_push, size]
  split
  · rfl
  · rw [Array.getElem?_modify]
    by_cases same : id = other
    · rw [if_pos same, if_pos same.symm, same]
    · rw [if_neg same, if_neg (Ne.symm same)]

variable [Source G]

/-- A fork is all or nothing. In a world that is reached, an animal that lives forks with a
percentage without a fraction, or with a value that is no number. If the cell ahead has an obstacle
or an animal, be it the parent itself, the parent waits for ten ticks and nothing else changes.
Otherwise the child inherits without a fault, and if the energy of the parent has a double, as it has
exactly below the limit of doubles, it is split, exactly one animal is added, last in the list and on
the cell ahead, and the births are one more. The parent keeps all but its energy and its wait, every
other animal is as it was, and so are the ground, the deaths and the tick. -/
theorem fork_all_or_nothing (h : Reachable Habitable world) (hid : id ∈ world.animals)
    (ha : world.roster[id]? = some parent) (alive : 1 ≤ parent.energy) {value : Atom}
    (whole : ∀ x, value ≠ .number (.double x)) :
    let front := world.grid.wrapped parent.front
    (front = parent.cell → world.occupied[front]? = some id) ∧
    (world.grid.valueAt front < 0 ∨ (∃ other, world.occupied[front]? = some other) →
      (fork id value.number?).outcome world =
        (.ok none, world.changed id fun parent => { parent with wait := 10 })) ∧
    ((∃ x, Double.ofInt parent.energy = .ok x) ↔ parent.energy < 2 ^ 1024 - 2 ^ 970) ∧
    (0 ≤ world.grid.valueAt front → world.occupied[front]? = none →
      ∃ inherited rng,
        (inherit parent.body parent.program parent.color world.settings.mutation).outcome world.rng =
          (.ok inherited, rng) ∧
        ∀ x, Double.ofInt parent.energy = .ok x →
          ∃ kept given after,
            splitEnergy (.int parent.energy) (.int value.percentage) forkYield =
              .ok (kept, given) ∧
            (fork id value.number?).outcome world = (.ok (some world.roster.size), after) ∧
            after.animals = world.animals ++ [world.roster.size] ∧
            after.roster.size = world.roster.size + 1 ∧
            after.roster[world.roster.size]? = some
              { cell := front
                body := inherited.body
                program := inherited.program
                dx := parent.dx
                dy := parent.dy
                energy := given
                wait := 10
                color := inherited.color
                execution := none } ∧
            after.roster[id]? = some { parent with energy := kept, wait := 10 } ∧
            (∀ other, other ≠ id → other ≠ world.roster.size →
              after.roster[other]? = world.roster[other]?) ∧
            (∀ cell, after.occupied[cell]? =
              if front = cell then some world.roster.size else world.occupied[cell]?) ∧
            after.births = world.births + 1 ∧
            after = { world with
              rng
              roster := after.roster
              animals := after.animals
              occupied := after.occupied
              births := after.births }) := by
  have intact := intact_of_reachable h
  have known := intact.occupied.lt_size hid
  have outcome := outcome_fork intact.occupied ha value.number?
  rw [clampPercentage_number? whole] at outcome
  dsimp only at outcome ⊢
  refine ⟨fun same => ?_, fun blocked => ?_, ?_, fun clear free => ?_⟩
  · rw [same]
    exact intact.occupied.occupied_eq hid ha
  · rw [if_neg (not_isOpen_of_blocked blocked)] at outcome
    exact outcome
  · rw [Double.exists_ofInt_iff, abs_of_nonneg (by omega)]
  · obtain ⟨inherited, rng, hi, -⟩ := exists_roomy_legacy world (intact.bodied id hid parent ha)
    rw [if_pos (isOpen_of_free clear free), hi] at outcome
    refine ⟨inherited, rng, hi, fun x hx => ?_⟩
    have bounds := value.percentage_bounds
    have range : 0 ≤ value.percentage ∧ value.percentage ≤ 100 := by omega
    obtain ⟨⟨kept, given⟩, split⟩ := exists_splitEnergy_of_ofInt (by omega) range hx
    rw [split] at outcome
    have roster := roster_borne world id
      (child parent (world.grid.wrapped parent.front) given inherited) kept rng
    refine ⟨kept, given, _, split, outcome, rfl, ?_, ?_, ?_, ?_, ?_, rfl, rfl⟩
    · exact (Array.size_push _).trans (congrArg (· + 1) Array.size_modify)
    · rw [roster, if_pos rfl]
      rfl
    · rw [roster, if_neg known.ne, if_pos rfl, ha]
      rfl
    · intro other notParent notChild
      rw [roster, if_neg notChild, if_neg notParent]
    · intro cell
      exact CellMap.getElem?_insert _ _ _ _

/-- In the world with two cells the animal forks onto the cell ahead, and its two hundred are split
into one hundred and twenty-six for itself and fifty-four for the child. -/
theorem fork_all_or_nothing_islet :
    ∃ animal after, islet.roster[0]? = some animal ∧
      (fork 0 (some (.int 30))).outcome islet = (.ok (some 1), after) ∧
      after.animals = [0, 1] ∧ after.roster[0]? = some { animal with energy := 126, wait := 10 } ∧
      after.roster[1]?.map (·.energy) = some 54 ∧ after.births = 1 ∧ after.grid = islet.grid := by
  have reachable : Reachable Habitable islet :=
    reachable_islet (habitable_default (by decide) (by decide))
  have listed : islet.animals = [0] := by decide +kernel
  have size : islet.roster.size = 1 := by decide +kernel
  have births : islet.births = 0 := by decide +kernel
  have first : islet.roster[0]?.map (fun animal => (animal.energy,
      islet.grid.wrapped animal.front)) = some (200, ⟨1, 0⟩) := by decide +kernel
  have clear : 0 ≤ islet.grid.valueAt ⟨1, 0⟩ := by decide +kernel
  have free : islet.occupied[(⟨1, 0⟩ : Cell)]? = none := by decide +kernel
  obtain ⟨animal, found, fields⟩ := Option.map_eq_some_iff.mp first
  obtain ⟨energy, front⟩ := Prod.mk.inj fields
  have alive : 1 ≤ animal.energy := by rw [energy]; decide
  have whole (x : Double) : Atom.number (.int 30) ≠ .number (.double x) := nofun
  obtain ⟨-, -, -, bears⟩ :=
    fork_all_or_nothing reachable (by rw [listed]; decide) found alive whole
  rw [front, energy] at bears
  obtain ⟨inherited, rng, -, splits⟩ := bears clear free
  obtain ⟨kept, given, after, split, outcome, animals, -, child, parent, -, -, counted, rest⟩ :=
    splits (.finite 200) (by decide +kernel)
  have shares : splitEnergy (.int 200) (.int 30) forkYield = .ok (126, 54) := by decide +kernel
  have same : (kept, given) = (126, 54) := Except.ok.inj (split.symm.trans shares)
  obtain ⟨rfl, rfl⟩ := Prod.mk.inj same
  rw [size] at outcome animals child
  rw [listed] at animals
  rw [births] at counted
  exact ⟨animal, after, found, outcome, animals, parent, by rw [child]; rfl, counted, by rw [rest]⟩

/-- There is a world that is reached in which a fork is half done. The animal has more energy than
any double, and the cell ahead is open. What the child would inherit is drawn and the parent has to
wait, but the energy cannot be split, so there is no child. -/
theorem fork_half_done_hermit :
    ∃ (world after : World Beat) (parent : Animal), Reachable Habitable world ∧
      0 ∈ world.animals ∧ world.roster[0]? = some parent ∧ 1 ≤ parent.energy ∧
      0 ≤ world.grid.valueAt (world.grid.wrapped parent.front) ∧
      world.occupied[world.grid.wrapped parent.front]? = none ∧
      (fork 0 (Atom.number (.int 30)).number?).outcome world = (.error .integerTooLarge, after) ∧
      after.roster[0]? = some { parent with wait := 10 } ∧ after.animals = world.animals ∧
      after.births = world.births := by
  obtain ⟨world, parent, reached, listed, known, rich, hopen⟩ :=
    exists_rich_before_open 1024
  have intact := intact_of_reachable reached
  have member : 0 ∈ world.animals := by
    rw [listed]
    exact List.mem_singleton_self 0
  have alive : 0 < parent.energy := lt_of_lt_of_le (by positivity) rich
  have margin : (0 : Int) ≤ 2 ^ 970 := by positivity
  have beyond : 2 ^ 1024 - 2 ^ 970 ≤ |parent.energy| :=
    (sub_le_self _ margin).trans (rich.trans (le_abs_self _))
  obtain ⟨inherited, rng, hi, -⟩ := exists_roomy_legacy world (intact.bodied 0 member parent known)
  have outcome := outcome_fork intact.occupied known (some (.int 30))
  rw [show clampPercentage (some (.int 30)) = .ok 30 from rfl] at outcome
  dsimp only at outcome
  rw [if_pos hopen, hi] at outcome
  dsimp only at outcome
  rw [splitEnergy_eq_error (Double.ofInt_eq_error_iff.mpr beyond)] at outcome
  refine ⟨world, _, parent, reached, member, known, alive, food_of_isOpen hopen,
    occupied_eq_none hopen, outcome, ?_, rfl, rfl⟩
  change (world.changed 0 Animal.tired).roster[0]? = _
  rw [roster_changed, if_pos rfl, known]
  rfl

end World

end Vivarium
