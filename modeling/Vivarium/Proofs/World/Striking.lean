import Vivarium.Proofs.World.Balance
import Vivarium.Proofs.World.Waiting

/-!
# Hits

A hit moves the energy of the victim to the ground under it, up to the greatest amount of food, and
costs the attacker nothing but a wait. This holds for every heading and every edge of the torus. On
a torus with one column or one row the cell ahead may be the cell of the attacker itself, who is its
own victim then: this is the only case in which a hit does not spare the attacker.
-/

namespace Vivarium.World

variable {G : Type} {ids : List Nat} {world : World G} {id victim : Nat} {animal target : Animal}
  {cell other : Cell}

/-! ## The ground under a victim -/

/-- Food that is added to a cell moves no bound. -/
theorem extent_filled (world : World G) (cell : Cell) (amount : Int) :
    (world.filled cell amount).grid.width = world.grid.width ∧
      (world.filled cell amount).grid.height = world.grid.height := by
  rw [filled]
  split
  · exact ⟨rfl, rfl⟩
  · simp only [sown, Grid.width_put, Grid.height_put, and_self]

/-- Food that is added to a cell without an obstacle is found there up to the greatest amount, and
no other cell has more of it. -/
theorem valueAt_filled (h : Occupancy ids world) (inside : world.grid.Inside cell)
    (clear : 0 ≤ world.grid.valueAt cell) (amount : Int) (elsewhere : world.grid.Inside other) :
    (world.filled cell amount).grid.valueAt other =
      if other = cell then min world.settings.maxFood (world.grid.valueAt cell + max 0 amount)
      else world.grid.valueAt other := by
  have bounds := h.bounded cell inside
  unfold filled
  by_cases idle : world.grid.valueAt cell < 0 ∨ amount ≤ 0
  · rw [if_pos idle]
    split
    case isTrue same =>
      rw [same]
      omega
    case isFalse => rfl
  · rw [if_neg idle, sown, Grid.valueAt_put inside elsewhere]
    have gain : max 0 amount = amount := by omega
    rw [gain]

/-- Where there is room, the ground gains all the food that is added. -/
theorem plantMass_filled (inside : world.grid.Inside cell)
    (clear : 0 ≤ world.grid.valueAt cell) {amount : Int}
    (room : world.grid.valueAt cell + max 0 amount ≤ world.settings.maxFood) :
    (world.filled cell amount).grid.plantMass = world.grid.plantMass + max 0 amount := by
  unfold filled
  by_cases idle : world.grid.valueAt cell < 0 ∨ amount ≤ 0
  · rw [if_pos idle]
    omega
  · rw [if_neg idle, sown, Grid.plantMass_put inside]
    omega

/-! ## The world after a hit -/

/-- A hit changes the victim and the attacker, and no other animal. -/
theorem roster_struck (world : World G) (id victim other : Nat) (cell : Cell) (energy : Int) :
    (world.struck id victim cell energy).roster[other]? =
      let hurt := if victim = other then
        world.roster[other]?.map fun animal => { animal with energy := Animal.hitEnergy }
      else world.roster[other]?
      if id = other then hurt.map fun animal => { animal with wait := Animal.waitHit }
      else hurt := by
  have ground : (world.filled cell energy).roster = world.roster := by rw [filled_eq]
  rw [struck, roster_changed, roster_changed, ground]

/-- A hit alters the ground and the fields of animals, and nothing else. -/
theorem struck_eq (world : World G) (id victim : Nat) (cell : Cell) (energy : Int) :
    world.struck id victim cell energy =
      { world with
        grid := (world.struck id victim cell energy).grid
        roster := (world.struck id victim cell energy).roster } := by
  rw [struck, filled_eq]
  rfl

/-- Where there is room, the energy of the victim stays in the world. -/
theorem wealth_struck (h : Occupancy ids world) (inside : world.grid.Inside cell)
    (hv : victim ∈ ids) (ht : world.roster[victim]? = some target)
    (clear : 0 ≤ world.grid.valueAt cell)
    (room : world.grid.valueAt cell + max 0 target.energy ≤ world.settings.maxFood) :
    wealth ids (world.struck id victim cell target.energy) = wealth ids world := by
  have known : (world.filled cell target.energy).roster[victim]? = some target := by
    rw [filled_eq]
    exact ht
  have waits := wealth_changed_of_energy ((world.filled cell target.energy).changed victim
    fun animal => { animal with energy := Animal.hitEnergy }) ids id
      (fun animal => { animal with wait := Animal.waitHit }) fun _ => rfl
  have deposit := plantMass_filled inside clear room
  rw [struck, waits, wealth_changed h.nodup hv known, filled_eq, wealth_of_ground, deposit]
  simp only [Animal.hitEnergy]
  omega

/-- On a torus with more than one column and row, the cell ahead is never the cell of the animal. -/
theorem wrapped_front_ne (sound : animal.Sound) (inside : world.grid.Inside animal.cell)
    (hw : 2 ≤ world.grid.width) (hh : 2 ≤ world.grid.height) :
    world.grid.wrapped animal.front ≠ animal.cell := by
  have heading := sound.heading
  obtain ⟨left, right, top, bottom⟩ := inside
  -- A step moves one coordinate by one, which is not zero modulo an extent of two or more.
  have moves (extent : Nat) (wide : 2 ≤ extent) (x dx : Int) (low : 0 ≤ x) (high : x < extent)
      (one : dx = 1 ∨ dx = -1) : (x + dx) % extent ≠ x := by
    intro same
    have divides : (extent : Int) ∣ dx := by
      have gap := Int.dvd_self_sub_of_emod_eq same
      rwa [add_sub_cancel_left] at gap
    have small : (extent : Int) ∣ 1 := by
      rcases one with rfl | rfl
      · exact divides
      · exact (Int.dvd_neg).mp divides
    have := Int.le_of_dvd (by decide) small
    omega
  intro same
  have column := congrArg Cell.x same
  have row := congrArg Cell.y same
  simp only [Grid.wrapped, Animal.front] at column row
  simp only [headings, List.mem_cons, Prod.mk.injEq, List.not_mem_nil, or_false] at heading
  rcases heading with ⟨hx, -⟩ | ⟨-, hy⟩ | ⟨hx, -⟩ | ⟨-, hy⟩
  · exact moves _ hw _ _ left right (.inl hx) column
  · exact moves _ hh _ _ top bottom (.inl hy) row
  · exact moves _ hw _ _ left right (.inr hx) column
  · exact moves _ hh _ _ top bottom (.inr hy) row

variable [Source G]

/-- In a world that is reached, an animal that hits the one in front of it waits for three ticks,
and keeps its place and its energy, unless it is in front of itself, which takes a torus with one
column or one row. The energy of the victim becomes minus one thousand. What it was beyond zero is
added to the food under the victim, up to the greatest amount, and below that the energy of the
world stays the same. Nothing else changes: no other animal, no other cell, neither the map nor the
order of the animals, neither the counters nor the journal, and nothing is drawn. -/
theorem hit_moves_energy (h : Reachable Habitable world) (hid : id ∈ world.animals)
    (ha : world.roster[id]? = some animal)
    (hv : world.occupied[world.grid.wrapped animal.front]? = some victim) :
    ∃ target after,
      world.roster[victim]? = some target ∧
      target.cell = world.grid.wrapped animal.front ∧
      (hit id).outcome world = (.ok (), after) ∧
      (victim ≠ id →
        after.roster[id]? = some { animal with wait := 3 } ∧
        after.roster[victim]? = some { target with energy := -1000 }) ∧
      (victim = id → after.roster[id]? = some { animal with energy := -1000, wait := 3 }) ∧
      (victim = id ↔ world.grid.wrapped animal.front = animal.cell) ∧
      (2 ≤ world.grid.width → 2 ≤ world.grid.height → victim ≠ id) ∧
      (∀ other, other ≠ id → other ≠ victim → after.roster[other]? = world.roster[other]?) ∧
      after.grid.width = world.grid.width ∧ after.grid.height = world.grid.height ∧
      after.grid.valueAt target.cell =
        min world.settings.maxFood (world.grid.valueAt target.cell + max 0 target.energy) ∧
      (∀ cell, world.grid.Inside cell → cell ≠ target.cell →
        after.grid.valueAt cell = world.grid.valueAt cell) ∧
      (world.grid.valueAt target.cell + max 0 target.energy ≤ world.settings.maxFood →
        total after = total world) ∧
      after = { world with grid := after.grid, roster := after.roster } := by
  have occupied := occupied_of_reachable h
  obtain ⟨sound, inside, -⟩ := occupied.stands hid ha
  obtain ⟨member, target, ht, place⟩ := (occupied.map _ _).mp hv
  obtain ⟨-, under, clear⟩ := occupied.stands member ht
  have outcome := outcome_hit occupied ha
  have itself : victim = id ↔ world.grid.wrapped animal.front = animal.cell := by
    constructor
    · rintro rfl
      rw [ht, Option.some.injEq] at ha
      rw [← place, ha]
    · intro same
      exact occupied.eq_of_cell_eq member hid ht ha (place.trans same)
  rw [← place] at hv outcome itself
  simp only [hv, ht] at outcome
  have ground : (world.struck id victim target.cell target.energy).grid =
      (world.filled target.cell target.energy).grid := rfl
  have extent := extent_filled world target.cell target.energy
  refine ⟨target, world.struck id victim target.cell target.energy, ht, place, outcome, ?_, ?_,
    place ▸ itself, ?_, ?_, ?_, ?_, ?_, ?_, ?_, ?_⟩
  · intro apart
    simp only [roster_struck, if_neg apart, if_neg (Ne.symm apart), if_true, ha, ht]
    exact ⟨rfl, rfl⟩
  · rintro rfl
    simp only [roster_struck, if_true, ha]
    rfl
  · intro hw hh same
    exact wrapped_front_ne sound inside hw hh (place ▸ itself.mp same)
  · intro other notAttacker notVictim
    simp only [roster_struck, if_neg (Ne.symm notAttacker), if_neg (Ne.symm notVictim)]
  · rw [ground]
    exact extent.1
  · rw [ground]
    exact extent.2
  · rw [ground, valueAt_filled occupied under clear _ under, if_pos rfl]
  · intro cell here elsewhere
    rw [ground, valueAt_filled occupied under clear _ here, if_neg elsewhere]
  · intro room
    have same : (world.struck id victim target.cell target.energy).animals = world.animals := by
      rw [struck_eq]
    rw [total, same]
    exact wealth_struck occupied under member ht clear room
  · exact struck_eq world id victim target.cell target.energy

/-- In the world with two cells the second animal is in front of the first one, which hits it. -/
theorem hit_moves_energy_duo :
    ∃ animal target after, Reachable Habitable duo ∧ 0 ∈ duo.animals ∧
      duo.roster[0]? = some animal ∧ duo.occupied[duo.grid.wrapped animal.front]? = some 1 ∧
      duo.roster[1]? = some target ∧ (hit 0).outcome duo = (.ok (), after) ∧
      after.roster[0]? = some { animal with wait := 3 } ∧
      after.roster[1]? = some { target with energy := -1000 } ∧
      after.grid.valueAt target.cell = 200 := by
  have reachable : Reachable Habitable duo :=
    (reachable_islet (habitable_default (by decide) (by decide))).spawned
  have listed : 0 ∈ duo.animals := by decide +kernel
  have front : duo.roster[0]?.map (fun animal => duo.grid.wrapped animal.front) = some ⟨1, 0⟩ := by
    decide +kernel
  have neighbour : duo.occupied[(⟨1, 0⟩ : Cell)]? = some 1 := by decide +kernel
  have energy : duo.roster[1]?.map (fun target =>
      min duo.settings.maxFood (duo.grid.valueAt target.cell + max 0 target.energy)) =
        some 200 := by
    decide +kernel
  obtain ⟨animal, first, place⟩ := Option.map_eq_some_iff.mp front
  have ahead : duo.occupied[duo.grid.wrapped animal.front]? = some 1 := place ▸ neighbour
  obtain ⟨target, after, ht, -, outcome, apart, -, -, -, -, -, -, food, -⟩ :=
    hit_moves_energy reachable listed first ahead
  obtain ⟨spared, hurt⟩ := apart (by decide)
  rw [ht, Option.map_some, Option.some.injEq] at energy
  exact ⟨animal, target, after, reachable, listed, first, ahead, ht, outcome, spared, hurt,
    food.trans energy⟩

/-- A world with one cell and an animal on it. -/
def solo : World Beat :=
  (spawn.outcome { grid := Grid.empty 1 1, rng := ⟨0⟩, settings := {} }).2

/-- In the world with one cell the animal is in front of itself and loses its energy by its own
hit. -/
theorem hit_spares_nobody_solo :
    Reachable Habitable solo ∧ 0 ∈ solo.animals ∧
      solo.roster[0]?.map (fun animal => (animal.energy, solo.grid.wrapped animal.front)) =
        some (200, ⟨0, 0⟩) ∧
      solo.occupied[(⟨0, 0⟩ : Cell)]? = some 0 ∧
      ((hit 0).outcome solo).1 = .ok () ∧
      ((hit 0).outcome solo).2.roster[0]?.map (·.energy) = some (-1000) ∧
      ((hit 0).outcome solo).2.grid.valueAt ⟨0, 0⟩ = 200 := by
  have empty : World.empty 1 1 (⟨0⟩ : Beat) {} =
      .ok { grid := Grid.empty 1 1, rng := ⟨0⟩, settings := {} } := rfl
  refine ⟨.spawned (.empty (habitable_default (by decide) (by decide)) empty), ?_⟩
  decide +kernel

end Vivarium.World
