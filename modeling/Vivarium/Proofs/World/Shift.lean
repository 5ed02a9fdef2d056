import Vivarium.Proofs.Terrain.Shift
import Vivarium.Proofs.World.Event

/-!
# Shifted worlds

A shift of a world moves its ground and all animals, and leaves everything else. A shifted world is
occupied if the world is. What leaves the world of an action can be told before or after the shift:
the map of animals is determined by who stands where, so it is enough to compare the ground and the
animals.
-/

namespace Vivarium

/-- A map whose cells are taken elsewhere, different ones to different ones, maps what is reached.
-/
theorem CellMap.getElem?_ofList_map {α : Type} {map : CellMap α} {f : Cell → Cell}
    (injective : ∀ cell other, cell ∈ map → other ∈ map → f cell = f other → cell = other)
    (cell : Cell) (a : α) :
    (Std.ExtTreeMap.ofList (map.toList.map fun entry => (f entry.1, entry.2)) Cell.order)[cell]? =
      some a ↔ ∃ here, map[here]? = some a ∧ f here = cell := by
  have member {here : Cell} {b : α} (listed : (here, b) ∈ map.toList) :
      here ∈ map ∧ map[here]? = some b := by
    have found := Std.ExtTreeMap.mem_toList_iff_getElem?_eq_some.mp listed
    exact ⟨Std.ExtTreeMap.isSome_getElem?_iff_mem.mp (Option.isSome_of_eq_some found), found⟩
  have distinct : (map.toList.map fun entry => (f entry.1, entry.2)).Pairwise
      fun entry other => ¬ Cell.order entry.1 other.1 = .eq := by
    rw [List.pairwise_map]
    refine Std.ExtTreeMap.distinct_keys_toList.imp_of_mem fun {entry other} he ho apart same => ?_
    have equal := injective _ _ (member he).1 (member ho).1
      (Std.LawfulEqCmp.compare_eq_iff_eq.mp same)
    exact apart (Std.LawfulEqCmp.compare_eq_iff_eq.mpr equal)
  have found {here : Cell} {b : α} (hb : map[here]? = some b) :
      (Std.ExtTreeMap.ofList
        (map.toList.map fun entry => (f entry.1, entry.2)) Cell.order)[f here]? = some b := by
    refine Std.ExtTreeMap.getElem?_ofList_of_mem Std.ReflCmp.compare_self distinct ?_
    exact List.mem_map.mpr ⟨(here, b), Std.ExtTreeMap.mem_toList_iff_getElem?_eq_some.mpr hb, rfl⟩
  constructor
  · intro ha
    have mem := Std.ExtTreeMap.isSome_getElem?_iff_mem.mp (Option.isSome_of_eq_some ha)
    rw [Std.ExtTreeMap.mem_ofList, List.contains_iff_mem, List.map_map, List.mem_map] at mem
    obtain ⟨⟨here, b⟩, listed, rfl⟩ := mem
    obtain ⟨-, hb⟩ := member listed
    have same := (found hb).symm.trans ha
    exact ⟨here, hb.trans same, rfl⟩
  · rintro ⟨here, hb, rfl⟩
    exact found hb

/-- An array mapped after a change of an entry is the mapped array with that entry changed. -/
theorem map_modify {α β : Type} (items : Array α) (i : Nat) (f : α → β) {change : α → α}
    {changed : β → β} (h : ∀ a, f (change a) = changed (f a)) :
    (items.modify i change).map f = (items.map f).modify i changed := by
  apply Array.ext_getElem?
  intro j
  rw [Array.getElem?_map, Array.getElem?_modify, Array.getElem?_modify, Array.getElem?_map]
  split
  · cases items[j]? with
    | none => rfl
    | some a => exact congrArg some (h a)
  · rfl

/-- An animal that the ground takes along. -/
def Animal.carried (move : Cell → Cell) (animal : Animal) : Animal :=
  { animal with cell := move animal.cell }

namespace World

variable {G : Type}

/-- The shifted world. -/
def shifted (world : World G) (s : Shift) : World G :=
  { world with
    grid := world.grid.shifted s
    roster := world.roster.map (Animal.carried (world.grid.moved s))
    occupied := Std.ExtTreeMap.ofList
      (world.occupied.toList.map fun entry => (world.grid.moved s entry.1, entry.2)) Cell.order }

variable {ids : List Nat} {world other : World G} {s : Shift} {id : Nat} {animal : Animal}
  {cell : Cell}

/-- The animals of a shifted world are the shifted animals. -/
theorem roster_shifted (ha : world.roster[id]? = some animal) :
    (world.shifted s).roster[id]? = some (animal.carried (world.grid.moved s)) := by
  rw [shifted, Array.getElem?_map, ha]
  rfl

namespace Occupancy

variable (h : Occupancy ids world)

include h

/-- Animals stand inside. -/
theorem inside_of_mem (hm : cell ∈ world.occupied) : world.grid.Inside cell := by
  obtain ⟨id, found⟩ := Option.isSome_iff_exists.mp (Std.ExtTreeMap.isSome_getElem?_iff_mem.mpr hm)
  obtain ⟨hid, animal, ha, rfl⟩ := (h.map cell id).mp found
  exact (h.stands hid ha).2.1

/-- The map of a shifted world tells who has gone to a cell. -/
theorem getElem?_shifted (s : Shift) (cell : Cell) (id : Nat) :
    (world.shifted s).occupied[cell]? = some id ↔
      ∃ here, world.occupied[here]? = some id ∧ world.grid.moved s here = cell :=
  CellMap.getElem?_ofList_map (fun _ _ hm hm' same =>
    Grid.moved_injective (h.inside_of_mem hm) (h.inside_of_mem hm') same) cell id

/-- Who stands on a cell goes with it. -/
theorem getElem?_moved (s : Shift) (inside : world.grid.Inside cell) :
    (world.shifted s).occupied[world.grid.moved s cell]? = world.occupied[cell]? := by
  apply Option.ext
  intro id
  rw [h.getElem?_shifted]
  constructor
  · rintro ⟨here, found, same⟩
    have mem : here ∈ world.occupied :=
      Std.ExtTreeMap.isSome_getElem?_iff_mem.mp (Option.isSome_of_eq_some found)
    rwa [← Grid.moved_injective (h.inside_of_mem mem) inside same]
  · intro found
    exact ⟨cell, found, rfl⟩

/-- A shift keeps the occupancy. -/
theorem shifted (s : Shift) : Occupancy ids (world.shifted s) where
  width_pos := h.width_pos
  height_pos := h.height_pos
  maxFood_nonneg := h.maxFood_nonneg
  maxFood_le := h.maxFood_le
  bounded := h.bounded.shifted h.width_pos h.height_pos s
  nodup := h.nodup
  known id hid := by
    obtain ⟨animal, ha, sound, inside, food⟩ := h.known id hid
    refine ⟨animal.carried (world.grid.moved s), roster_shifted ha, ?_, ?_, ?_⟩
    · exact sound.withWait _ animal.energy animal.wait animal.execution sound.wait_nonneg
        sound.wait_le
    · exact Grid.inside_moved h.width_pos h.height_pos s animal.cell
    · exact food.trans_eq (Grid.valueAt_moved h.width_pos h.height_pos inside).symm
  map cell id := by
    rw [h.getElem?_shifted]
    constructor
    · rintro ⟨here, found, rfl⟩
      obtain ⟨hid, animal, ha, rfl⟩ := (h.map here id).mp found
      exact ⟨hid, animal.carried (world.grid.moved s), roster_shifted ha, rfl⟩
    · rintro ⟨hid, moved, hm, rfl⟩
      obtain ⟨animal, ha, -⟩ := h.known id hid
      rw [roster_shifted ha, Option.some.injEq] at hm
      exact ⟨animal.cell, h.occupied_eq hid ha, by rw [← hm]; rfl⟩

/-- Who stands where determines the map of animals. -/
theorem occupied_unique (h' : Occupancy ids other) (roster : other.roster = world.roster) :
    other.occupied = world.occupied := by
  apply Std.ExtTreeMap.ext_getElem?
  intro cell
  apply Option.ext
  intro id
  rw [h'.map, h.map, roster]

/-- An occupied world is the shifted one if its ground and its animals are the shifted ones, and all
else is the same. -/
theorem eq_shifted (h' : Occupancy ids other) (grid : other.grid = world.grid.shifted s)
    (roster : other.roster = world.roster.map (Animal.carried (world.grid.moved s)))
    (rest : other = { world with
      grid := other.grid, roster := other.roster, occupied := other.occupied }) :
    other = world.shifted s := by
  have map : other.occupied = (world.shifted s).occupied :=
    (h.shifted s).occupied_unique h' roster
  rw [rest, grid, roster, map]
  rfl

end Occupancy

/-! ## What actions leave -/

/-- An animal may be changed after a shift, if the change does not depend on where it stands. -/
theorem shifted_changed {change : Animal → Animal}
    (hc : ∀ animal, (change animal).carried (world.grid.moved s) =
      change (animal.carried (world.grid.moved s))) :
    (world.changed id change).shifted s = (world.shifted s).changed id change := by
  have roster := map_modify world.roster id (Animal.carried (world.grid.moved s)) hc
  rw [World.shifted, World.changed, roster]
  rfl

section

variable (h : Occupancy ids world)

include h

/-- A value stored on the ground may be stored after a shift. -/
theorem shifted_sown (inside : world.grid.Inside cell) (value : Int) :
    (world.sown cell value).shifted s = (world.shifted s).sown (world.grid.moved s cell) value := by
  simp only [World.shifted, sown, Grid.moved_put,
    Grid.shifted_put h.width_pos h.height_pos inside]

/-- What a cell of the ground holds moves with it. -/
theorem valueAt_shifted (inside : world.grid.Inside cell) :
    (world.shifted s).grid.valueAt (world.grid.moved s cell) = world.grid.valueAt cell :=
  Grid.valueAt_moved h.width_pos h.height_pos inside

/-- Food may be added after a shift. -/
theorem shifted_filled (inside : world.grid.Inside cell) (amount : Int) :
    (world.filled cell amount).shifted s =
      (world.shifted s).filled (world.grid.moved s cell) amount := by
  rw [filled, filled, valueAt_shifted h inside]
  split
  · rfl
  · exact shifted_sown h inside _

/-- An open cell stays open where it goes. -/
theorem isOpen_shifted (inside : world.grid.Inside cell) :
    (world.shifted s).isOpen (world.grid.moved s cell) = world.isOpen cell := by
  rw [isOpen, isOpen, valueAt_shifted h inside, Std.ExtTreeMap.contains_eq_isSome_getElem?,
    Std.ExtTreeMap.contains_eq_isSome_getElem?, h.getElem?_moved s inside]

/-- An animal may go to an open cell after a shift. -/
theorem shifted_relocated (hid : id ∈ ids) (ha : world.roster[id]? = some animal)
    (inside : world.grid.Inside cell) (hopen : world.isOpen cell) :
    (world.relocated id animal.cell cell).shifted s =
      (world.shifted s).relocated id (world.grid.moved s animal.cell)
        (world.grid.moved s cell) := by
  have before := h.relocated hid ha inside hopen
  have after := (h.shifted s).relocated hid (roster_shifted ha)
    (Grid.inside_moved h.width_pos h.height_pos s cell) ((isOpen_shifted h inside).trans hopen)
  have roster : (world.roster.modify id fun animal =>
        { animal with cell, wait := Animal.waitMove }).map (Animal.carried (world.grid.moved s)) =
      (world.roster.map (Animal.carried (world.grid.moved s))).modify id fun animal =>
        { animal with cell := world.grid.moved s cell, wait := Animal.waitMove } :=
    map_modify _ _ _ fun _ => rfl
  exact (before.eq_shifted after rfl roster.symm rfl).symm

/-- An animal may eat after a shift. -/
theorem shifted_grazed (inside : world.grid.Inside animal.cell) :
    (world.grazed id animal).shifted s =
      (world.shifted s).grazed id (animal.carried (world.grid.moved s)) := by
  have meals : (world.shifted s).meal (animal.carried (world.grid.moved s)) =
      world.meal animal := by
    rw [meal, meal]
    exact congrArg (fun food => max 0 (min food Animal.bite)) (valueAt_shifted h inside)
  have value : (world.shifted s).grid.valueAt (animal.carried (world.grid.moved s)).cell =
      world.grid.valueAt animal.cell := valueAt_shifted h inside
  rw [grazed, grazed, meals, value, shifted_changed, shifted_sown h inside]
  · rfl
  · exact fun _ => rfl

/-- An animal may be hit after a shift. -/
theorem shifted_struck (inside : world.grid.Inside cell) (victim : Nat) (energy : Int) :
    (world.struck id victim cell energy).shifted s =
      (world.shifted s).struck id victim (world.grid.moved s cell) energy := by
  rw [struck, struck, shifted_changed, shifted_changed, shifted_filled h inside]
  · exact fun _ => rfl
  · exact fun _ => rfl

end

/-- The cell ahead goes with the animal. -/
theorem wrapped_front_carried (grid : Grid) (s : Shift) (animal : Animal) :
    grid.wrapped (animal.carried (grid.moved s)).front =
      grid.moved s (grid.wrapped animal.front) :=
  Grid.wrapped_moved grid s animal.cell animal.dx animal.dy

/-- The cell behind goes with the animal. -/
theorem wrapped_back_carried (grid : Grid) (s : Shift) (animal : Animal) :
    grid.wrapped (animal.carried (grid.moved s)).back =
      grid.moved s (grid.wrapped animal.back) :=
  Grid.wrapped_moved grid s animal.cell (-animal.dx) (-animal.dy)

variable [Source G]

/-- A child may be born after a shift. -/
theorem shifted_borne (h : Occupancy ids world) (hid : id ∈ ids)
    (ha : world.roster[id]? = some animal)
    (hopen : world.isOpen (world.grid.wrapped animal.front)) {inherited : Inheritance} {rng : G}
    (hi : world.legacy animal = (.ok inherited, rng)) (kept given : Int) :
    (world.borne id (child animal (world.grid.wrapped animal.front) given inherited) kept
        rng).shifted s =
      (world.shifted s).borne id (child (animal.carried (world.grid.moved s))
        (world.grid.moved s (world.grid.wrapped animal.front)) given inherited) kept rng := by
  have front := wrapped_front_carried world.grid s animal
  have inside := Grid.inside_wrapped h.width_pos h.height_pos animal.front
  have size : (world.shifted s).roster.size = world.roster.size := Array.size_map ..
  have free : (world.shifted s).isOpen
      (world.grid.wrapped (animal.carried (world.grid.moved s)).front) := by
    rw [front]
    exact (isOpen_shifted h inside).trans hopen
  have before := h.borne hid ha hopen hi kept given
  have after := (h.shifted s).borne hid (roster_shifted ha) free hi kept given
  rw [size, show (world.shifted s).grid.wrapped _ = _ from front] at after
  refine (before.eq_shifted after rfl ?_ ?_).symm
  · have roster : (world.roster.modify id fun parent =>
          { parent with energy := kept, wait := Animal.waitFork }).map
            (Animal.carried (world.grid.moved s)) =
        (world.roster.map (Animal.carried (world.grid.moved s))).modify id fun parent =>
          { parent with energy := kept, wait := Animal.waitFork } :=
      map_modify _ _ _ fun _ => rfl
    refine Eq.trans ?_ (Array.map_push ..).symm
    exact congrArg (Array.push · _) roster.symm
  · rw [borne, size]
    rfl

omit [Source G] in
/-- Added food moves no bound. -/
theorem moved_filled (world : World G) (cell : Cell) (amount : Int) :
    (world.filled cell amount).grid.moved s = world.grid.moved s := by
  rw [filled]
  split
  · rfl
  · exact Grid.moved_put ..

omit [Source G] in
/-- An animal may be taken off the ground after a shift. -/
theorem shifted_buried {kept rest : List Nat} (h : Occupancy (kept ++ id :: rest) world)
    (ha : world.roster[id]? = some animal) (inside : world.grid.Inside animal.cell) :
    (world.buried animal).shifted s =
      (world.shifted s).buried (animal.carried (world.grid.moved s)) := by
  have filled := shifted_filled (s := s) h inside animal.energy
  refine ((h.buried ha).eq_shifted ((h.shifted s).buried (roster_shifted ha)) ?_ ?_ ?_).symm
  · exact congrArg (fun world => world.grid) filled.symm
  · change _ = (world.filled animal.cell animal.energy).roster.map
      (Animal.carried ((world.filled animal.cell animal.energy).grid.moved s))
    rw [moved_filled, filled_eq, buried, filled_eq]
    rfl
  · simp only [buried]
    rw [filled_eq, filled_eq world]
    rfl

end World

end Vivarium
