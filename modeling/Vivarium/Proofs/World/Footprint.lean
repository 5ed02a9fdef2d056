import Mathlib.Data.Set.Basic
import Vivarium.Proofs.Terrain.Shift
import Vivarium.Proofs.World.State
import Vivarium.World.Action

/-!
# Footprints

An attempt is local to a region of cells and animals if worlds that agree on the region make it come
to the same and leave worlds that agree on the region, and if nothing outside of the region is
altered. What is built of local attempts is local. Two attempts that are local to regions without a
cell or an animal in common come to the same in either order, and leave the same world.
-/

namespace Vivarium.World

variable {G : Type} {α β : Type}

/-- Some cells of a world and some of its animals. -/
structure Region where
  /-- The cells. -/
  cells : Set Cell
  /-- The numbers of the animals. -/
  ids : Set Nat

/-- Whether two worlds are alike in settings and extent and have the same on a region. -/
structure Agree (region : Region) (world other : World G) : Prop where
  settings : other.settings = world.settings
  width : other.grid.width = world.grid.width
  height : other.grid.height = world.grid.height
  ground : ∀ cell ∈ region.cells, world.grid.Inside cell →
    other.grid.valueAt cell = world.grid.valueAt cell
  map : ∀ cell ∈ region.cells, other.occupied[cell]? = world.occupied[cell]?
  roster : ∀ id ∈ region.ids, other.roster[id]? = world.roster[id]?

/-- Whether a world differs from an earlier one in a region only. The source of random numbers, the
list of the animals, the counters and the journal belong to no region. -/
structure Confined (region : Region) (world after : World G) : Prop where
  rest : after =
    { world with grid := after.grid, roster := after.roster, occupied := after.occupied }
  width : after.grid.width = world.grid.width
  height : after.grid.height = world.grid.height
  ground : ∀ cell, world.grid.Inside cell → cell ∉ region.cells →
    after.grid.valueAt cell = world.grid.valueAt cell
  map : ∀ cell ∉ region.cells, after.occupied[cell]? = world.occupied[cell]?
  roster : ∀ id ∉ region.ids, after.roster[id]? = world.roster[id]?

/-- Whether an attempt on a world depends on a region only and alters nothing else. -/
def Local (region : Region) (attempt : Sim G α) (world : World G) : Prop :=
  ∀ other, Agree region world other →
    (attempt.outcome other).1 = (attempt.outcome world).1 ∧
      Agree region (attempt.outcome world).2 (attempt.outcome other).2 ∧
      Confined region other (attempt.outcome other).2

variable {region : Region} {world middle after other : World G} {cell : Cell} {id : Nat}

/-- A world agrees with itself. -/
theorem Agree.refl (region : Region) (world : World G) : Agree region world world :=
  ⟨rfl, rfl, rfl, fun _ _ _ => rfl, fun _ _ => rfl, fun _ _ => rfl⟩

/-- Worlds that agree have the same cells inside. -/
theorem Agree.inside_iff (h : Agree region world other) :
    other.grid.Inside cell ↔ world.grid.Inside cell := by
  simp only [Grid.Inside, h.width, h.height]

/-- A world left alone is altered nowhere. -/
theorem Confined.refl (region : Region) (world : World G) : Confined region world world :=
  ⟨rfl, rfl, rfl, fun _ _ _ => rfl, fun _ _ => rfl, fun _ _ => rfl⟩

/-- What is done in a region moves no bound. -/
theorem Confined.inside_iff (h : Confined region world after) :
    after.grid.Inside cell ↔ world.grid.Inside cell := by
  simp only [Grid.Inside, h.width, h.height]

/-- What is done in a region twice is done in it. -/
theorem Confined.trans (h : Confined region world middle) (h' : Confined region middle after) :
    Confined region world after where
  rest := by rw [h'.rest, h.rest]
  width := h'.width.trans h.width
  height := h'.height.trans h.height
  ground cell inside outside :=
    (h'.ground cell (h.inside_iff.mpr inside) outside).trans (h.ground cell inside outside)
  map cell outside := (h'.map cell outside).trans (h.map cell outside)
  roster id outside := (h'.roster id outside).trans (h.roster id outside)

/-! ## Combinations -/

/-- What leaves every world alone and comes to the same in worlds that agree is local. -/
theorem local_of_read {attempt : Sim G α}
    (h : ∀ other, Agree region world other →
      attempt.outcome other = ((attempt.outcome world).1, other)) : Local region attempt world := by
  have here := h world (.refl region world)
  intro other agree
  rw [h other agree]
  refine ⟨rfl, ?_, .refl region other⟩
  rw [here]
  exact agree

/-- A value reached at once is local. -/
theorem local_pure (a : α) : Local region (pure a) world := local_of_read fun _ _ => rfl

/-- A fault reached at once is local. -/
theorem local_throw (fault : Fault) : Local region (throw fault : Sim G α) world :=
  local_of_read fun _ _ => rfl

/-- Two attempts in a row are local if the second one is wherever the first one leads. -/
theorem Local.bind {first : Sim G α} {next : α → Sim G β} (h : Local region first world)
    (h' : ∀ a after, first.outcome world = (.ok a, after) → Local region (next a) after) :
    Local region (first >>= next) world := by
  intro other agree
  obtain ⟨same, left, confined⟩ := h other agree
  rw [Attempt.outcome_bind, Attempt.outcome_bind]
  rcases hf : first.outcome world with ⟨result, here⟩
  rcases ho : first.outcome other with ⟨result', there⟩
  rw [hf, ho] at same left
  rw [ho] at confined
  obtain rfl : result' = result := same
  cases result' with
  | error fault => exact ⟨rfl, left, confined⟩
  | ok a =>
    -- The worlds that the first attempt leaves agree again, so the second one can be compared.
    obtain ⟨same, right, more⟩ := h' a here hf there left
    exact ⟨same, right, confined.trans more⟩

/-- Two attempts in a row are local if the first one comes to a value and the second one is local
from there on. -/
theorem Local.bind_of_ok {first : Sim G α} {next : α → Sim G β} {a : α}
    (h : Local region first world) (outcome : first.outcome world = (.ok a, after))
    (h' : Local region (next a) after) : Local region (first >>= next) world := by
  refine h.bind fun found reached same => ?_
  rw [outcome, Prod.mk.injEq, Except.ok.injEq] at same
  obtain ⟨rfl, rfl⟩ := same
  exact h'

/-- An attempt and its handler are local together. -/
theorem Local.tryCatch {attempt : Sim G α} {handler : Fault → Sim G α}
    (h : Local region attempt world)
    (h' : ∀ fault after, attempt.outcome world = (.error fault, after) →
      Local region (handler fault) after) : Local region (tryCatch attempt handler) world := by
  intro other agree
  obtain ⟨same, left, confined⟩ := h other agree
  rw [Attempt.outcome_tryCatch, Attempt.outcome_tryCatch]
  rcases ha : attempt.outcome world with ⟨result, here⟩
  rcases ho : attempt.outcome other with ⟨result', there⟩
  rw [ha, ho] at same left
  rw [ho] at confined
  obtain rfl : result' = result := same
  cases result' with
  | ok a => exact ⟨rfl, left, confined⟩
  | error fault =>
    obtain ⟨same, right, more⟩ := h' fault here ha there left
    exact ⟨same, right, confined.trans more⟩

/-- What is read of the world is local if it is the same in worlds that agree. -/
theorem Local.of_get {next : World G → Sim G α}
    (same : ∀ other, Agree region world other → next other = next world)
    (h : Local region (next world) world) : Local region (get >>= next) world := by
  intro other agree
  rw [Attempt.outcome_bind_of_ok (Attempt.outcome_get _),
    Attempt.outcome_bind_of_ok (Attempt.outcome_get _), same other agree]
  exact h other agree

/-- An animal of the region is read locally. -/
theorem local_animal (hid : id ∈ region.ids) : Local region (animal id : Sim G Animal) world := by
  refine Local.of_get (fun other agree => ?_) ?_
  · rw [agree.roster id hid]
  · cases world.roster[id]? with
    | none => exact local_throw _
    | some animal => exact local_pure animal

/-- A computation without a state is local. -/
theorem local_ofExcept (result : Except Fault α) :
    Local region (liftM result : Sim G α) world :=
  local_of_read fun _ _ => by rw [Attempt.outcome_ofExcept, Attempt.outcome_ofExcept]

/-! ## Reading -/

/-- A cell is brought onto the torus locally. -/
theorem local_wrap (cell : Cell) : Local region (wrap cell : Sim G Cell) world := by
  refine local_of_read fun other agree => ?_
  rw [outcome_wrap, outcome_wrap, Grid.wrap, Grid.wrap, agree.width, agree.height]

/-- The food on a cell of the region is read locally. -/
theorem local_food (hc : cell ∈ region.cells) (inside : world.grid.Inside cell) :
    Local region (food cell : Sim G Int) world := by
  refine local_of_read fun other agree => ?_
  rw [outcome_food_of_inside inside, outcome_food_of_inside (agree.inside_iff.mpr inside),
    agree.ground cell hc inside]

/-- The animal on a cell of the region is found locally. -/
theorem local_animalAt (hc : cell ∈ region.cells) :
    Local region (animalAt cell : Sim G (Option Nat)) world := by
  refine local_of_read fun other agree => ?_
  rw [outcome_animalAt, outcome_animalAt, agree.map cell hc]

/-- Whether a cell of the region is free is found locally. -/
theorem local_isFree (hc : cell ∈ region.cells) (inside : world.grid.Inside cell) :
    Local region (isFree cell : Sim G Bool) world := by
  refine local_of_read fun other agree => ?_
  rw [outcome_isFree_of_inside inside, outcome_isFree_of_inside (agree.inside_iff.mpr inside),
    isOpen, isOpen, agree.ground cell hc inside, Std.ExtTreeMap.contains_eq_isSome_getElem?,
    Std.ExtTreeMap.contains_eq_isSome_getElem?, agree.map cell hc]

/-! ## Writing -/

/-- An animal of the region is changed locally. -/
theorem local_changeAnimal (hid : id ∈ region.ids) (change : Animal → Animal) :
    Local region (changeAnimal id change : Sim G Unit) world := by
  intro other agree
  rw [outcome_changeAnimal, outcome_changeAnimal]
  refine ⟨rfl, { agree with roster := fun i hi => ?_ },
    { Confined.refl region other with rest := rfl, roster := fun i hi => ?_ }⟩
  · rw [roster_changed, roster_changed, agree.roster i hi]
  · rw [roster_changed, if_neg]
    rintro rfl
    exact hi hid

/-- A change of the map on a cell of the region is local. -/
theorem local_modify_occupied (hc : cell ∈ region.cells) {change : CellMap Nat → CellMap Nat}
    {found : Option Nat}
    (hf : ∀ map place, (change map)[place]? = if cell = place then found else map[place]?) :
    Local region (modify fun world => { world with occupied := change world.occupied } :
      Sim G PUnit) world := by
  intro other agree
  rw [Attempt.outcome_modify, Attempt.outcome_modify]
  refine ⟨rfl, { agree with map := fun place hp => ?_ },
    { Confined.refl region other with rest := rfl, map := fun place hp => ?_ }⟩
  · rw [hf, hf, agree.map place hp]
  · rw [hf, if_neg]
    rintro rfl
    exact hp hc

/-- A cell of the region is vacated locally. -/
theorem local_vacate (hc : cell ∈ region.cells) :
    Local region (vacate cell : Sim G Unit) world := by
  refine Local.of_get (fun other agree => ?_) ?_
  · simp only [Std.ExtTreeMap.contains_eq_isSome_getElem?, agree.map cell hc]
  · split
    · exact local_modify_occupied hc fun map place => CellMap.getElem?_erase map cell place
    · exact local_throw _

/-- A value is stored in a cell of the region locally. -/
theorem local_store (hc : cell ∈ region.cells) (inside : world.grid.Inside cell) (value : Int) :
    Local region (onGrid (Grid.store cell value) : Sim G Unit) world := by
  intro other agree
  have there := agree.inside_iff.mpr inside
  by_cases fits : Grid.fits value
  · rw [outcome_onGrid, outcome_onGrid, Grid.outcome_store_of_inside inside fits,
      Grid.outcome_store_of_inside there fits]
    refine ⟨rfl, ⟨agree.settings, ?_, ?_, fun place hp within => ?_, agree.map, agree.roster⟩,
      ⟨rfl, ?_, ?_, fun place hp apart => ?_, fun _ _ => rfl, fun _ _ => rfl⟩⟩
    · simpa using agree.width
    · simpa using agree.height
    · have within : world.grid.Inside place := Grid.inside_put.mp within
      change (other.grid.put cell value).valueAt place = (world.grid.put cell value).valueAt place
      rw [Grid.valueAt_put there (agree.inside_iff.mpr within), Grid.valueAt_put inside within,
        agree.ground place hp within]
    · simp
    · simp
    · rw [Grid.valueAt_put there hp, if_neg]
      rintro rfl
      exact apart hc
  · rw [outcome_onGrid, outcome_onGrid, Grid.outcome_store_of_overflow inside fits,
      Grid.outcome_store_of_overflow there fits]
    exact ⟨rfl, agree, .refl region other⟩

/-- An amount of food is put on a cell of the region locally. -/
theorem local_setFood (hc : cell ∈ region.cells) (inside : world.grid.Inside cell) (amount : Int) :
    Local region (setFood cell amount : Sim G Unit) world := by
  refine Local.of_get (fun other agree => ?_) (local_store hc inside _)
  simp only [agree.settings]

/-- Food is added to a cell of the region locally. -/
theorem local_addFood (hc : cell ∈ region.cells) (inside : world.grid.Inside cell) (amount : Int) :
    Local region (addFood cell amount : Sim G Int) world := by
  refine (local_food hc inside).bind_of_ok (outcome_food_of_inside inside) ?_
  split
  · exact local_pure 0
  · refine Local.of_get (fun other agree => ?_) ?_
    · simp only [agree.settings]
    · exact (local_store hc inside _).bind fun _ _ _ => local_pure _

/-! ## Order -/

/-- Whether regions have no cell and no animal in common. -/
structure Region.Apart (region distant : Region) : Prop where
  cells : ∀ cell ∈ region.cells, cell ∉ distant.cells
  ids : ∀ id ∈ region.ids, id ∉ distant.ids

/-- Apartness has no direction. -/
theorem Region.Apart.symm {distant : Region} (h : region.Apart distant) : distant.Apart region :=
  ⟨fun cell there here => h.cells cell here there, fun id there here => h.ids id here there⟩

/-- What is done in a region is not noticed in another one that is apart. -/
theorem Confined.agree {distant : Region} (h : Confined region world after)
    (apart : region.Apart distant) : Agree distant world after where
  settings := by rw [h.rest]
  width := h.width
  height := h.height
  ground cell hc inside := h.ground cell inside (apart.symm.cells cell hc)
  map cell hc := h.map cell (apart.symm.cells cell hc)
  roster id hid := h.roster id (apart.symm.ids id hid)

/-- What one of two patches holds is the same in either order of the two, if the first patch leaves
what is in the second and the other way around. -/
theorem eq_of_patches {ι : Type} {γ : Sort*} {here there : Set ι} {i : ι}
    {start first second both both' : γ} (apart : ∀ i ∈ here, i ∉ there)
    (first_eq : i ∉ here → first = start) (second_eq : i ∉ there → second = start)
    (both_eq : i ∉ there → both = first) (both_eq' : i ∉ here → both' = second)
    (agree : i ∈ here → both' = first) (agree' : i ∈ there → both = second) : both = both' := by
  by_cases inside : i ∈ here
  · rw [both_eq (apart i inside), agree inside]
  · by_cases within : i ∈ there
    · rw [agree' within, both_eq' inside]
    · rw [both_eq within, both_eq' inside, first_eq inside, second_eq within]

/-- Two ways through patches that are apart lead to the same world. -/
theorem eq_of_confined {distant : Region} {one two both both' : World G}
    (apart : region.Apart distant) (first : Confined region world one)
    (second : Confined distant world two) (then_second : Confined distant one both)
    (then_first : Confined region two both') (agree : Agree region one both')
    (agree' : Agree distant two both) : both = both' := by
  have width : both.grid.width = both'.grid.width := by
    rw [then_second.width, first.width, then_first.width, second.width]
  have height : both.grid.height = both'.grid.height := by
    rw [then_second.height, first.height, then_first.height, second.height]
  -- A cell or an animal is in one of the regions at most, so only one of the two alters it.
  have ground : both.grid = both'.grid := by
    refine Grid.ext_valueAt width height fun cell inside => ?_
    have inside_one := then_second.inside_iff.mp inside
    have start := first.inside_iff.mp inside_one
    have inside_two := second.inside_iff.mpr start
    exact eq_of_patches apart.cells (first.ground cell start) (second.ground cell start)
      (then_second.ground cell inside_one) (then_first.ground cell inside_two)
      (fun hc => agree.ground cell hc inside_one) fun hc => agree'.ground cell hc inside_two
  have map : both.occupied = both'.occupied := Std.ExtTreeMap.ext_getElem? fun cell =>
    eq_of_patches apart.cells (first.map cell) (second.map cell) (then_second.map cell)
      (then_first.map cell) (agree.map cell) (agree'.map cell)
  have roster : both.roster = both'.roster := Array.ext_getElem? fun id =>
    eq_of_patches apart.ids (first.roster id) (second.roster id) (then_second.roster id)
      (then_first.roster id) (agree.roster id) (agree'.roster id)
  rw [then_second.rest, then_first.rest, first.rest, second.rest, ground, map, roster]

/-- Attempts that are local to regions apart come to the same in either order, and leave the same
world. -/
theorem Local.comm {distant : Region} {attempt : Sim G α} {attempt' : Sim G β}
    (h : Local region attempt world) (h' : Local distant attempt' world)
    (apart : region.Apart distant) :
    (attempt'.outcome (attempt.outcome world).2).1 = (attempt'.outcome world).1 ∧
      (attempt.outcome (attempt'.outcome world).2).1 = (attempt.outcome world).1 ∧
      (attempt'.outcome (attempt.outcome world).2).2 =
        (attempt.outcome (attempt'.outcome world).2).2 := by
  obtain ⟨-, -, first⟩ := h world (.refl region world)
  obtain ⟨-, -, second⟩ := h' world (.refl distant world)
  obtain ⟨same', agree', then_second⟩ := h' _ (first.agree apart)
  obtain ⟨same, agree, then_first⟩ := h _ (second.agree apart.symm)
  exact ⟨same', same, eq_of_confined apart first second then_second then_first agree agree'⟩

end Vivarium.World
