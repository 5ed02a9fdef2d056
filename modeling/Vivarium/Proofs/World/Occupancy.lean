import Mathlib.Data.List.Nodup
import Vivarium.Proofs.World.State

/-!
# Occupancy

The invariant of a world with animals on it: the ground is bounded, the animals of a list are known,
stand on ground without obstacles and have sound fields, and the map of animals is exactly the map
from their cells to them. The list is a parameter, since animals leave the ground one by one before
they leave the list of the world. One lemma for each way to change a world keeps the invariant.
-/

namespace Vivarium

/-- The headings of animals. -/
def headings : List (Int × Int) := [(1, 0), (0, 1), (-1, 0), (0, -1)]

/-- What holds of the fields of an animal by themselves. -/
structure Animal.Sound (animal : Animal) : Prop where
  heading : (animal.dx, animal.dy) ∈ headings
  wait_nonneg : 0 ≤ animal.wait
  wait_le : animal.wait ≤ 10
  color_nonneg : 0 ≤ animal.color
  color_le : animal.color ≤ 255

namespace Animal.Sound

variable {animal : Animal}

/-- A turn to the left leads from a heading to a heading. -/
theorem turnLeft (h : animal.Sound) : animal.turnLeft.Sound where
  heading := by
    have known := h.heading
    simp only [headings, List.mem_cons, Prod.mk.injEq, List.not_mem_nil, or_false,
      Animal.turnLeft] at known ⊢
    omega
  wait_nonneg := (by decide : 0 ≤ Animal.waitTurn)
  wait_le := (by decide : Animal.waitTurn ≤ 10)
  color_nonneg := h.color_nonneg
  color_le := h.color_le

/-- A turn to the right leads from a heading to a heading. -/
theorem turnRight (h : animal.Sound) : animal.turnRight.Sound where
  heading := by
    have known := h.heading
    simp only [headings, List.mem_cons, Prod.mk.injEq, List.not_mem_nil, or_false,
      Animal.turnRight] at known ⊢
    omega
  wait_nonneg := (by decide : 0 ≤ Animal.waitTurn)
  wait_le := (by decide : Animal.waitTurn ≤ 10)
  color_nonneg := h.color_nonneg
  color_le := h.color_le

/-- Where an animal stands, its energy and its execution do not matter, and it may wait for up to
ten ticks. -/
theorem withWait (h : animal.Sound) (cell : Cell) (energy wait : Int) (execution : Option Execution)
    (hl : 0 ≤ wait) (hu : wait ≤ 10) :
    { animal with cell, energy, wait, execution }.Sound :=
  ⟨h.heading, hl, hu, h.color_nonneg, h.color_le⟩

end Animal.Sound

namespace World

variable {G : Type}

/-- The animals of a list occupy a world: they are what stands on its ground, and all is in order
with them. -/
structure Occupancy (ids : List Nat) (world : World G) : Prop where
  width_pos : 0 < world.grid.width
  height_pos : 0 < world.grid.height
  maxFood_nonneg : 0 ≤ world.settings.maxFood
  maxFood_le : world.settings.maxFood ≤ 32767
  bounded : world.grid.Bounded world.settings.maxFood
  nodup : ids.Nodup
  known : ∀ id ∈ ids, ∃ animal, world.roster[id]? = some animal ∧ animal.Sound ∧
    world.grid.Inside animal.cell ∧ 0 ≤ world.grid.valueAt animal.cell
  map : ∀ cell id, world.occupied[cell]? = some id ↔
    id ∈ ids ∧ ∃ animal, world.roster[id]? = some animal ∧ animal.cell = cell

/-- Whether the animals of its list occupy a world. -/
def Occupied (world : World G) : Prop := Occupancy world.animals world

namespace Occupancy

variable {ids : List Nat} {world : World G} {id : Nat} {animal : Animal}

/-- The number of an animal of the list is taken. -/
theorem lt_size (h : Occupancy ids world) (hid : id ∈ ids) : id < world.roster.size := by
  obtain ⟨animal, found, -⟩ := h.known id hid
  exact (Array.getElem?_eq_some_iff.mp found).1

/-- An animal of the list is sound, and stands inside and on no obstacle. -/
theorem stands (h : Occupancy ids world) (hid : id ∈ ids) (ha : world.roster[id]? = some animal) :
    animal.Sound ∧ world.grid.Inside animal.cell ∧ 0 ≤ world.grid.valueAt animal.cell := by
  obtain ⟨found, hf, stands⟩ := h.known id hid
  rw [ha, Option.some.injEq] at hf
  exact hf ▸ stands

/-- The next number belongs to no animal yet. -/
theorem size_notMem (h : Occupancy ids world) : world.roster.size ∉ ids :=
  fun hm => Nat.lt_irrefl _ (h.lt_size hm)

/-- A newcomer does not change who the animals of the list are. -/
theorem getElem?_push (h : Occupancy ids world) (hid : id ∈ ids) (newcomer : Animal) :
    (world.roster.push newcomer)[id]? = world.roster[id]? := by
  have below := h.lt_size hid
  rw [Array.getElem?_push, if_neg (by omega)]

/-- An animal of the list is on the map. -/
theorem occupied_eq (h : Occupancy ids world) (hid : id ∈ ids)
    (ha : world.roster[id]? = some animal) : world.occupied[animal.cell]? = some id :=
  (h.map _ _).mpr ⟨hid, animal, ha, rfl⟩

/-- Two animals on one cell are the same. -/
theorem eq_of_cell_eq (h : Occupancy ids world) {other : Nat} {neighbour : Animal} (hid : id ∈ ids)
    (ho : other ∈ ids) (ha : world.roster[id]? = some animal)
    (hn : world.roster[other]? = some neighbour) (hc : animal.cell = neighbour.cell) :
    id = other := by
  have first := h.occupied_eq hid ha
  rw [hc, h.occupied_eq ho hn] at first
  exact (Option.some.inj first).symm

/-- The order of the list does not matter. -/
theorem perm {others : List Nat} (h : Occupancy ids world) (same : ids.Perm others) :
    Occupancy others world :=
  { h with
    nodup := same.nodup_iff.mp h.nodup
    known := fun id hid => h.known id (same.mem_iff.mpr hid)
    map := fun cell id => by rw [h.map, same.mem_iff] }

/-- The source of random numbers, the counters and the journal do not matter. -/
theorem congr (h : Occupancy ids world) {after : World G} (grid : after.grid = world.grid)
    (settings : after.settings = world.settings) (roster : after.roster = world.roster)
    (occupied : after.occupied = world.occupied) : Occupancy ids after where
  width_pos := grid ▸ h.width_pos
  height_pos := grid ▸ h.height_pos
  maxFood_nonneg := settings ▸ h.maxFood_nonneg
  maxFood_le := settings ▸ h.maxFood_le
  bounded := grid ▸ settings ▸ h.bounded
  nodup := h.nodup
  known := grid ▸ roster ▸ h.known
  map := occupied ▸ roster ▸ h.map

/-- A change of an animal that leaves it where it is and sound keeps the occupancy. -/
theorem changed (h : Occupancy ids world) (change : Animal → Animal)
    (hc : ∀ animal, world.roster[id]? = some animal →
      (change animal).cell = animal.cell ∧ (animal.Sound → (change animal).Sound)) :
    Occupancy ids (world.changed id change) where
  width_pos := h.width_pos
  height_pos := h.height_pos
  maxFood_nonneg := h.maxFood_nonneg
  maxFood_le := h.maxFood_le
  bounded := h.bounded
  nodup := h.nodup
  known other ho := by
    obtain ⟨animal, found, sound, inside, food⟩ := h.known other ho
    rw [roster_changed]
    by_cases same : id = other
    · subst same
      obtain ⟨cell, kept⟩ := hc animal found
      refine ⟨change animal, by rw [if_pos rfl, found]; rfl, kept sound, ?_, ?_⟩
      · rw [cell]
        exact inside
      · rw [cell]
        exact food
    · exact ⟨animal, by rw [if_neg same, found], sound, inside, food⟩
  map cell other := by
    change world.occupied[cell]? = some other ↔ _
    rw [h.map, roster_changed]
    by_cases same : id = other
    · subst same
      rw [if_pos rfl]
      cases found : world.roster[id]? with
      | none => simp
      | some animal => simp [(hc animal found).1]
    · rw [if_neg same]

/-- Care for the ground keeps the occupancy. -/
theorem tended (h : Occupancy ids world) {grid : Grid}
    (ht : Grid.Tended world.settings.maxFood world.grid grid) :
    Occupancy ids { world with grid } where
  width_pos := by
    change 0 < grid.width
    rw [ht.width]
    exact h.width_pos
  height_pos := by
    change 0 < grid.height
    rw [ht.height]
    exact h.height_pos
  maxFood_nonneg := h.maxFood_nonneg
  maxFood_le := h.maxFood_le
  bounded := ht.bounded h.bounded
  nodup := h.nodup
  known id hid := by
    obtain ⟨animal, found, sound, inside, food⟩ := h.known id hid
    exact ⟨animal, found, sound, ht.inside_iff.mpr inside, ht.food_nonneg h.bounded inside food⟩
  map := h.map

/-- An animal put on an open cell joins the occupancy. -/
theorem place (h : Occupancy ids world) (sound : animal.Sound)
    (inside : world.grid.Inside animal.cell) (hopen : world.isOpen animal.cell) :
    Occupancy (ids ++ [world.roster.size])
      { world with
        roster := world.roster.push animal
        animals := world.animals ++ [world.roster.size]
        occupied := world.occupied.insert animal.cell world.roster.size } where
  width_pos := h.width_pos
  height_pos := h.height_pos
  maxFood_nonneg := h.maxFood_nonneg
  maxFood_le := h.maxFood_le
  bounded := h.bounded
  nodup := by
    rw [List.nodup_append]
    exact ⟨h.nodup, List.nodup_singleton _, fun id hid other ho same =>
      h.size_notMem (by rwa [same, List.mem_singleton.mp ho] at hid)⟩
  known id hid := by
    dsimp only
    rcases List.mem_append.mp hid with old | new
    · rw [h.getElem?_push old]
      exact h.known id old
    · rw [List.mem_singleton.mp new, Array.getElem?_push, if_pos rfl]
      exact ⟨animal, rfl, sound, inside, food_of_isOpen hopen⟩
  map cell id := by
    dsimp only
    rw [CellMap.getElem?_insert, List.mem_append, List.mem_singleton]
    by_cases same : animal.cell = cell
    · rw [if_pos same, Option.some.injEq]
      constructor
      · rintro rfl
        exact ⟨.inr rfl, animal, by rw [Array.getElem?_push, if_pos rfl], same⟩
      · rintro ⟨old | new, other, found, hc⟩
        · rw [h.getElem?_push old] at found
          have taken := h.occupied_eq old found
          rw [hc, ← same, occupied_eq_none hopen] at taken
          contradiction
        · exact new.symm
    · rw [if_neg same, h.map]
      constructor
      · rintro ⟨old, other, found, hc⟩
        exact ⟨.inl old, other, by rw [h.getElem?_push old, found], hc⟩
      · rintro ⟨old | rfl, other, found, hc⟩
        · exact ⟨old, other, by rw [← h.getElem?_push old, found], hc⟩
        · rw [Array.getElem?_push, if_pos rfl, Option.some.injEq] at found
          exact absurd (found ▸ hc) same

/-- An animal that steps onto an open cell stays in the occupancy. -/
theorem relocated (h : Occupancy ids world) (hid : id ∈ ids) (ha : world.roster[id]? = some animal)
    {there : Cell} (inside : world.grid.Inside there) (hopen : world.isOpen there) :
    Occupancy ids (world.relocated id animal.cell there) where
  width_pos := h.width_pos
  height_pos := h.height_pos
  maxFood_nonneg := h.maxFood_nonneg
  maxFood_le := h.maxFood_le
  bounded := h.bounded
  nodup := h.nodup
  known other ho := by
    obtain ⟨found, hf, sound, rest⟩ := h.known other ho
    rw [roster_relocated]
    by_cases same : id = other
    · subst same
      rw [if_pos rfl, hf]
      have food := food_of_isOpen hopen
      exact ⟨_, rfl, sound.withWait there found.energy Animal.waitMove found.execution (by decide)
        (by decide), inside, food⟩
    · rw [if_neg same, hf]
      exact ⟨found, rfl, sound, rest⟩
  map cell other := by
    rw [roster_relocated]
    change ((world.occupied.erase animal.cell).insert there id)[cell]? = some other ↔ _
    rw [CellMap.getElem?_insert, CellMap.getElem?_erase]
    by_cases same : id = other
    · subst same
      rw [if_pos rfl, ha]
      by_cases arrived : there = cell
      · simp [arrived, hid]
      · rw [if_neg arrived]
        by_cases left : animal.cell = cell
        · simp [left, arrived]
        · rw [if_neg left, h.map, ha]
          simp [left, arrived]
    · rw [if_neg same]
      by_cases arrived : there = cell
      · rw [if_pos arrived, ← h.map, ← arrived, occupied_eq_none hopen]
        simpa using same
      · rw [if_neg arrived]
        by_cases left : animal.cell = cell
        · rw [if_pos left, ← h.map, ← left, h.occupied_eq hid ha]
          simpa using same
        · rw [if_neg left, h.map]

/-- An animal taken off its cell leaves the occupancy. -/
theorem vacated {kept rest : List Nat} (h : Occupancy (kept ++ id :: rest) world)
    (ha : world.roster[id]? = some animal) :
    Occupancy (kept ++ rest) { world with occupied := world.occupied.erase animal.cell } where
  width_pos := h.width_pos
  height_pos := h.height_pos
  maxFood_nonneg := h.maxFood_nonneg
  maxFood_le := h.maxFood_le
  bounded := h.bounded
  nodup := (List.nodup_middle.mp h.nodup).of_cons
  known other ho := h.known other (List.mem_append.mpr ((List.mem_append.mp ho).imp_right
    (List.mem_cons_of_mem id)))
  map cell other := by
    have gone : id ∉ kept ++ rest := (List.nodup_cons.mp (List.nodup_middle.mp h.nodup)).1
    have member : id ∈ kept ++ id :: rest := List.mem_append_right _ List.mem_cons_self
    dsimp only
    rw [CellMap.getElem?_erase]
    by_cases left : animal.cell = cell
    · rw [if_pos left]
      constructor
      · intro none
        contradiction
      · rintro ⟨ho, found, hf, hc⟩
        have still : other ∈ kept ++ id :: rest := by
          rw [List.mem_append] at ho ⊢
          exact ho.imp_right (List.mem_cons_of_mem id)
        have same := h.eq_of_cell_eq member still ha hf (left.trans hc.symm)
        exact absurd (same ▸ ho) gone
    · rw [if_neg left, h.map]
      constructor
      · rintro ⟨ho, found, hf, hc⟩
        have other_ne : other ≠ id := by
          rintro rfl
          rw [ha, Option.some.injEq] at hf
          exact left (hf ▸ hc)
        refine ⟨?_, found, hf, hc⟩
        rw [List.mem_append, List.mem_cons] at ho
        rw [List.mem_append]
        exact ho.imp_right fun hr => hr.resolve_left other_ne
      · rintro ⟨ho, found, hf, hc⟩
        refine ⟨?_, found, hf, hc⟩
        rw [List.mem_append] at ho ⊢
        exact ho.imp_right (List.mem_cons_of_mem id)

end Occupancy

end World

end Vivarium
