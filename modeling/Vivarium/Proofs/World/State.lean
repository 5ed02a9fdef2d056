import Vivarium.Proofs.Terrain.Growth
import Vivarium.World.Basic

/-!
# What operations on a world come to

The parts of a world are a landscape, the animals and their map. Here is what draws, changes of
animals and changes of the ground do to the whole, as equations on the world that they leave.
-/

namespace Vivarium

/-- What is put on a cell is found there, and nothing else is new. -/
theorem CellMap.getElem?_insert {α : Type} (map : CellMap α) (cell other : Cell) (a : α) :
    (map.insert cell a)[other]? = if cell = other then some a else map[other]? := by
  rw [Std.ExtTreeMap.getElem?_insert]
  simp only [Std.LawfulEqCmp.compare_eq_iff_eq]

/-- What is taken from a cell is found there no more, and nothing else is gone. -/
theorem CellMap.getElem?_erase {α : Type} (map : CellMap α) (cell other : Cell) :
    (map.erase cell)[other]? = if cell = other then none else map[other]? := by
  rw [Std.ExtTreeMap.getElem?_erase]
  simp only [Std.LawfulEqCmp.compare_eq_iff_eq]

namespace World

variable {G : Type} {α : Type}

/-- The world with the animal of a number changed. -/
def changed (world : World G) (id : Nat) (change : Animal → Animal) : World G :=
  { world with roster := world.roster.modify id change }

/-- The world with its source of random numbers replaced. -/
def reseeded (world : World G) (rng : G) : World G :=
  { world with rng }

/-- The world with the value of a cell replaced. -/
def sown (world : World G) (cell : Cell) (value : Int) : World G :=
  { world with grid := world.grid.put cell value }

/-- Whether a cell has neither an obstacle nor an animal. -/
def isOpen (world : World G) (cell : Cell) : Bool :=
  0 ≤ world.grid.valueAt cell && !world.occupied.contains cell

/-- Nobody is on an open cell. -/
theorem occupied_eq_none {world : World G} {cell : Cell} (hopen : world.isOpen cell) :
    world.occupied[cell]? = none := by
  simp only [isOpen, Bool.and_eq_true, Bool.not_eq_true', decide_eq_true_eq,
    Std.ExtTreeMap.contains_eq_isSome_getElem?, Option.isSome_eq_false_iff,
    Option.isNone_iff_eq_none] at hopen
  exact hopen.2

/-- No obstacle is on an open cell. -/
theorem food_of_isOpen {world : World G} {cell : Cell} (hopen : world.isOpen cell) :
    0 ≤ world.grid.valueAt cell := by
  simp only [isOpen, Bool.and_eq_true, decide_eq_true_eq] at hopen
  exact hopen.1

/-- A draw moves the source on and leaves the rest alone. -/
theorem outcome_draw (attempt : Attempt G α) (world : World G) :
    (draw attempt).outcome world =
      ((attempt.outcome world.rng).1, world.reseeded (attempt.outcome world.rng).2) := by
  rw [draw, onLandscape, Attempt.outcome_onPart, Landscape.draw, Attempt.outcome_onPart]
  rfl

/-- An attempt on the grid leaves the rest alone. -/
theorem outcome_onGrid (attempt : Attempt Grid α) (world : World G) :
    (onGrid attempt).outcome world =
      ((attempt.outcome world.grid).1, { world with grid := (attempt.outcome world.grid).2 }) := by
  rw [onGrid, onLandscape, Attempt.outcome_onPart, Landscape.onGrid, Attempt.outcome_onPart]

/-- A change of an animal is all that happens. -/
theorem outcome_changeAnimal (id : Nat) (change : Animal → Animal) (world : World G) :
    (changeAnimal id change).outcome world = (.ok (), world.changed id change) := rfl

/-- The animal changed is the one of the number. -/
theorem roster_changed (world : World G) (id other : Nat) (change : Animal → Animal) :
    (world.changed id change).roster[other]? =
      if id = other then world.roster[other]?.map change else world.roster[other]? :=
  Array.getElem?_modify

/-- An entry modified twice is modified once. -/
theorem modify_modify (roster : Array Animal) (id : Nat) (first second : Animal → Animal) :
    (roster.modify id first).modify id second = roster.modify id fun a => second (first a) := by
  apply Array.ext_getElem?
  intro i
  simp only [Array.getElem?_modify]
  split
  · rw [Option.map_map]
    rfl
  · rfl

/-- The world with an animal gone from one cell to another. -/
def relocated (world : World G) (id : Nat) (here there : Cell) : World G :=
  { world with
    roster := world.roster.modify id fun animal =>
      { animal with cell := there, wait := Animal.waitMove }
    occupied := (world.occupied.erase here).insert there id }

/-- The animal gone to another cell is the one of the number. -/
theorem roster_relocated (world : World G) (id other : Nat) (here there : Cell) :
    (world.relocated id here there).roster[other]? =
      if id = other then
        world.roster[other]?.map fun animal =>
          { animal with cell := there, wait := Animal.waitMove }
      else world.roster[other]? :=
  Array.getElem?_modify

/-- A known animal is found. -/
theorem outcome_animal_bind {id : Nat} {world : World G} {found : Animal}
    (h : world.roster[id]? = some found) (next : Animal → Sim G α) :
    (animal id >>= next).outcome world = (next found).outcome world :=
  Attempt.outcome_bind_of_ok (outcome_animal h) next

section

variable {world : World G} {cell : Cell}

/-- Food on a cell inside is read without a fault. -/
theorem outcome_food_of_inside (h : world.grid.Inside cell) :
    (food cell).outcome world = (.ok (world.grid.valueAt cell), world) := by
  rw [outcome_food, Grid.read_of_inside h]

/-- A cell inside is free if it is open. -/
theorem outcome_isFree_of_inside (h : world.grid.Inside cell) :
    (isFree cell).outcome world = (.ok (world.isOpen cell), world) :=
  outcome_isFree (Grid.read_of_inside h)

/-- Food is put on a cell inside, within the bounds for food. -/
theorem outcome_setFood_of_inside (h : world.grid.Inside cell)
    (hu : world.settings.maxFood ≤ 32767) (amount : Int) :
    (setFood cell amount).outcome world =
      (.ok (), world.sown cell (max obstacle (min world.settings.maxFood amount))) := by
  have fits : Grid.fits (max obstacle (min world.settings.maxFood amount)) := by
    rw [Grid.fits_iff]
    simp only [obstacle]
    omega
  rw [setFood, Attempt.outcome_bind_of_ok (Attempt.outcome_get world), outcome_onGrid,
    Grid.outcome_store_of_inside h fits]
  rfl

/-- What is left on a cell when food is added to it. -/
def filled (world : World G) (cell : Cell) (amount : Int) : World G :=
  if world.grid.valueAt cell < 0 ∨ amount ≤ 0 then world
  else world.sown cell (min world.settings.maxFood (world.grid.valueAt cell + amount))

/-- Food that is added to a cell changes the ground alone. -/
theorem filled_eq (world : World G) (cell : Cell) (amount : Int) :
    world.filled cell amount = { world with grid := (world.filled cell amount).grid } := by
  rw [filled]
  split <;> rfl

/-- Food is added to a cell inside up to the greatest amount. -/
theorem outcome_addFood_of_inside (h : world.grid.Inside cell)
    (hl : 0 ≤ world.settings.maxFood) (hu : world.settings.maxFood ≤ 32767) (amount : Int) :
    ∃ added, (addFood cell amount).outcome world = (.ok added, world.filled cell amount) := by
  rw [addFood, Attempt.outcome_bind_of_ok (outcome_food_of_inside h), filled]
  by_cases idle : world.grid.valueAt cell < 0 ∨ amount ≤ 0
  · exact ⟨0, by rw [if_pos idle, if_pos idle]; rfl⟩
  · have fits : Grid.fits (min world.settings.maxFood (world.grid.valueAt cell + amount)) := by
      rw [Grid.fits_iff]
      omega
    refine ⟨min world.settings.maxFood (world.grid.valueAt cell + amount) -
      world.grid.valueAt cell, ?_⟩
    rw [if_neg idle, if_neg idle, Attempt.outcome_bind_of_ok (Attempt.outcome_get world),
      Attempt.outcome_bind_of_ok
        (by rw [outcome_onGrid, Grid.outcome_store_of_inside h fits])]
    rfl

end

end World

end Vivarium
