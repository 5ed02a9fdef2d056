import Vivarium.Proofs.World.Replay
import Vivarium.Proofs.World.Shift

/-!
# Steps

An animal steps forward or backward onto the next cell, and nothing happens if an obstacle or an
animal is there. As the ground is a torus, the next cell can be that of the animal itself, or the
same in both ways. A step in one way and a step in the other one after it leave the world as it was,
but that the animal has to wait.
-/

namespace Vivarium

/-- The ways in which an animal steps. -/
inductive Way where
  | forward
  | backward
  deriving DecidableEq

/-- The other way. -/
def Way.opposite : Way → Way
  | forward => backward
  | backward => forward

namespace Animal

/-- The cell of the plane next to an animal in a way. -/
def beside (animal : Animal) : Way → Cell
  | .forward => animal.front
  | .backward => animal.back

/-- An animal that has to wait after a step. -/
def winded (animal : Animal) : Animal :=
  { animal with wait := waitMove }

end Animal

namespace World

variable {G : Type}

/-- A step of an animal in a way. -/
def walk (way : Way) (id : Nat) : Sim G Unit :=
  match way with
  | .forward => move id
  | .backward => moveBack id

/-- The cell onto which an animal steps in a way. -/
def goal (world : World G) (animal : Animal) (way : Way) : Cell :=
  world.grid.wrapped (animal.beside way)

/-- Whether an obstacle is on a cell, or one of the animals stands on it. -/
def Barred (world : World G) (cell : Cell) : Prop :=
  world.grid.valueAt cell < 0 ∨
    ∃ id ∈ world.animals, ∃ animal, world.roster[id]? = some animal ∧ animal.cell = cell

variable {world : World G} {id : Nat} {animal : Animal} {here there : Cell}

/-! ## Where a step leads -/

/-- On an occupied world, the cells that are not barred are open. -/
theorem barred_iff (h : world.Occupied) {cell : Cell} : world.Barred cell ↔ ¬world.isOpen cell := by
  have taken : world.occupied.contains cell ↔
      ∃ id ∈ world.animals, ∃ animal, world.roster[id]? = some animal ∧ animal.cell = cell := by
    rw [Std.ExtTreeMap.contains_eq_isSome_getElem?, Option.isSome_iff_exists]
    exact exists_congr fun id => h.map cell id
  rw [Barred, ← taken, isOpen]
  cases world.occupied.contains cell <;> simp

/-- The cell of an animal is barred by the animal itself. -/
theorem barred_self (hid : id ∈ world.animals) (ha : world.roster[id]? = some animal) :
    world.Barred animal.cell :=
  .inr ⟨id, hid, animal, ha, rfl⟩

/-- From where an animal came in one way, the other way leads back. -/
theorem goal_opposite (inside : world.grid.Inside animal.cell) (way : Way) :
    world.goal { animal with cell := world.goal animal way, wait := Animal.waitMove } way.opposite =
      animal.cell := by
  refine Eq.trans ?_ (Grid.wrapped_of_inside inside)
  cases way with
  | forward =>
    simp only [goal, Animal.beside, Way.opposite, Animal.front, Animal.back, Grid.wrapped,
      Int.emod_sub_emod, add_sub_cancel_right]
  | backward =>
    simp only [goal, Animal.beside, Way.opposite, Animal.front, Animal.back, Grid.wrapped,
      Int.emod_add_emod, sub_add_cancel]

/-- On a torus with a single column a step along the row leads nowhere, and with a single row one
along the column. -/
theorem goal_eq_self (inside : world.grid.Inside animal.cell)
    (ring : world.grid.width = 1 ∧ animal.dy = 0 ∨ world.grid.height = 1 ∧ animal.dx = 0)
    (way : Way) : world.goal animal way = animal.cell := by
  have around (x d : Int) : (x + d) % 1 = x % 1 ∧ (x - d) % 1 = x % 1 := by omega
  refine Eq.trans ?_ (Grid.wrapped_of_inside inside)
  rcases ring with ⟨column, level⟩ | ⟨row, upright⟩
  · cases way <;>
      simp only [goal, Animal.beside, Animal.front, Animal.back, Grid.wrapped, column, level,
        Nat.cast_one, around, add_zero, sub_zero]
  · cases way <;>
      simp only [goal, Animal.beside, Animal.front, Animal.back, Grid.wrapped, row, upright,
        Nat.cast_one, around, add_zero, sub_zero]

/-- An animal steps in a way if the cell there is open, and stays otherwise. -/
theorem outcome_walk (h : world.Occupied) (hid : id ∈ world.animals)
    (ha : world.roster[id]? = some animal) (way : Way) :
    (walk way id).outcome world =
      (.ok (), if world.isOpen (world.goal animal way) then
        world.relocated id animal.cell (world.goal animal way) else world) := by
  have inside := Grid.inside_wrapped h.width_pos h.height_pos (animal.beside way)
  rw [goal, ← outcome_stepTo h hid ha inside]
  cases way with
  | forward => exact Attempt.outcome_bind_of_ok (outcome_ahead h.width_pos h.height_pos ha) _
  | backward => exact Attempt.outcome_bind_of_ok (outcome_behind h.width_pos h.height_pos ha) _

/-! ## There and back -/

/-- An animal that goes to a cell is found there. -/
theorem getElem?_relocated (ha : world.roster[id]? = some animal) (here there : Cell) :
    (world.relocated id here there).roster[id]? =
      some { animal with cell := there, wait := Animal.waitMove } := by
  rw [roster_relocated, if_pos rfl, ha]
  rfl

/-- The cell that an animal left is open, if it stood on no obstacle. -/
theorem isOpen_relocated (food : 0 ≤ world.grid.valueAt here) (apart : there ≠ here) :
    (world.relocated id here there).isOpen here := by
  have free : (world.relocated id here there).occupied[here]? = none := by
    rw [relocated, CellMap.getElem?_insert, if_neg apart, CellMap.getElem?_erase, if_pos rfl]
  rw [isOpen, Std.ExtTreeMap.contains_eq_isSome_getElem?, free, Option.isSome_none, Bool.not_false,
    Bool.and_true]
  exact decide_eq_true food

/-- An animal that went to an open cell and back only has to wait. -/
theorem relocated_relocated (h : world.Occupied) (hid : id ∈ world.animals)
    (ha : world.roster[id]? = some animal) (inside : world.grid.Inside there)
    (hopen : world.isOpen there) (apart : there ≠ animal.cell) :
    (world.relocated id animal.cell there).relocated id there animal.cell =
      world.changed id Animal.winded := by
  obtain ⟨-, home, food⟩ := h.stands hid ha
  have roster : ((world.relocated id animal.cell there).relocated id there animal.cell).roster =
      (world.changed id Animal.winded).roster := by
    refine Array.ext_getElem? fun other => ?_
    rw [roster_relocated, roster_relocated, roster_changed]
    by_cases same : id = other
    · subst same
      rw [if_pos rfl, if_pos rfl, if_pos rfl, ha]
      rfl
    · rw [if_neg same, if_neg same, if_neg same]
  have went : Occupancy world.animals (world.relocated id animal.cell there) :=
    h.relocated hid ha inside hopen
  have came := went.relocated hid (getElem?_relocated ha animal.cell there) home
    (isOpen_relocated food apart)
  have waits : Occupancy world.animals (world.changed id Animal.winded) :=
    h.changed _ fun animal _ => ⟨rfl, fun sound =>
      sound.withWait animal.cell animal.energy Animal.waitMove animal.execution (by decide)
        (by decide)⟩
  have map : ((world.relocated id animal.cell there).relocated id there animal.cell).occupied =
      world.occupied := waits.occupied_unique came roster
  calc (world.relocated id animal.cell there).relocated id there animal.cell
      = { world with
          roster := ((world.relocated id animal.cell there).relocated id there animal.cell).roster
          occupied :=
            ((world.relocated id animal.cell there).relocated id there animal.cell).occupied } :=
        rfl
    _ = world.changed id Animal.winded := by
        rw [roster, map]
        rfl

/-- Every step of an animal of an occupied world succeeds. If the next cell in its way is barred,
nothing at all changes, and so it is for every step around a torus with a single column or row. If
it is not barred, the animal comes to this cell, which is another one than its own. If the animal
came to another cell, a step in the other way succeeds, and the world is as it was, but that the
animal has to wait. -/
theorem walk_opposite_undoes (h : world.Occupied) (hid : id ∈ world.animals)
    (ha : world.roster[id]? = some animal) (way : Way) :
    ∃ after moved, (walk way id).outcome world = (.ok (), after) ∧
      after.roster[id]? = some moved ∧
      (world.Barred (world.goal animal way) → after = world) ∧
      (world.grid.width = 1 ∧ animal.dy = 0 ∨ world.grid.height = 1 ∧ animal.dx = 0 →
        after = world) ∧
      (¬world.Barred (world.goal animal way) →
        moved.cell = world.goal animal way ∧ moved.cell ≠ animal.cell) ∧
      (moved.cell ≠ animal.cell →
        (walk way.opposite id).outcome after = (.ok (), world.changed id Animal.winded)) := by
  obtain ⟨-, home, food⟩ := h.stands hid ha
  have outcome := outcome_walk h hid ha way
  by_cases barred : world.Barred (world.goal animal way)
  · rw [if_neg ((barred_iff h).mp barred)] at outcome
    exact ⟨world, animal, outcome, ha, fun _ => rfl, fun _ => rfl, fun free => absurd barred free,
      fun away => absurd rfl away⟩
  · have hopen : world.isOpen (world.goal animal way) := by
      rwa [barred_iff h, not_not] at barred
    have apart : world.goal animal way ≠ animal.cell := fun same =>
      barred (same ▸ barred_self hid ha)
    have inside := Grid.inside_wrapped h.width_pos h.height_pos (animal.beside way)
    have went : Occupied (world.relocated id animal.cell (world.goal animal way)) :=
      h.relocated hid ha inside hopen
    have arrived := getElem?_relocated ha animal.cell (world.goal animal way)
    rw [if_pos hopen] at outcome
    refine ⟨_, _, outcome, arrived, fun shut => absurd shut barred,
      fun ring => absurd (goal_eq_self home ring way) apart, fun _ => ⟨rfl, apart⟩, fun _ => ?_⟩
    -- The other way leads back to the cell that the animal left, which is open.
    have back : (world.relocated id animal.cell (world.goal animal way)).goal
        { animal with cell := world.goal animal way, wait := Animal.waitMove } way.opposite =
          animal.cell := goal_opposite home way
    rw [outcome_walk went hid arrived, back, if_pos (isOpen_relocated food apart)]
    exact congrArg _ (relocated_relocated h hid ha inside hopen apart)

/-- The animal of a small world steps backward over the edge, and a step forward takes it back. -/
theorem walk_opposite_undoes_lone :
    let world := lone (Generator.ofSeed 7)
    ∃ after moved, (moveBack 0).outcome world = (.ok (), after) ∧ after.roster[0]? = some moved ∧
      moved.cell = ⟨2, 0⟩ ∧
      (move 0).outcome after = (.ok (), world.changed 0 Animal.winded) := by
  intro world
  obtain ⟨occupied, listed⟩ := resident_lone (Generator.ofSeed 7)
  have free : ¬world.Barred (world.goal { cell := ⟨0, 0⟩ } .backward) := by
    rw [barred_iff occupied, not_not]
    decide
  have found : world.roster[0]? = some { cell := ⟨0, 0⟩ } := rfl
  obtain ⟨after, moved, outcome, there, -, -, steps, undoes⟩ :=
    walk_opposite_undoes occupied listed found .backward
  obtain ⟨arrived, away⟩ := steps free
  exact ⟨after, moved, outcome, there, arrived, undoes away⟩

end World

end Vivarium
