import Vivarium.Proofs.Evolution.Split
import Vivarium.Proofs.World.Event

/-!
# Energy

The energy of a world is its plant mass together with the energy of the animals on the ground, where
an animal below zero counts for nothing. Every event changes it by no more than the event brings
from outside: animals exchange energy with the ground and with each other, and lose some of it.
-/

namespace Vivarium.World

variable {G : Type}

/-- The energy that the animal of a number counts for. -/
def vigor (world : World G) (id : Nat) : Int :=
  match world.roster[id]? with
  | some animal => max 0 animal.energy
  | none => 0

/-- The energy of the ground and of some animals. -/
def wealth (ids : List Nat) (world : World G) : Int :=
  world.grid.plantMass + (ids.map world.vigor).sum

/-- The energy of a world. -/
def total (world : World G) : Int :=
  wealth world.animals world

variable {ids : List Nat} {world : World G} {id : Nat} {animal : Animal}

/-- A known animal counts for its energy. -/
theorem vigor_of_getElem? (ha : world.roster[id]? = some animal) :
    world.vigor id = max 0 animal.energy := by
  rw [vigor, ha]

/-- A change that leaves every energy as it is leaves what everybody counts for. -/
theorem vigor_changed_of_energy {change : Animal → Animal}
    (h : ∀ animal, (change animal).energy = animal.energy) (id other : Nat) :
    (world.changed id change).vigor other = world.vigor other := by
  rw [vigor, vigor, roster_changed]
  by_cases same : id = other
  · rw [if_pos same]
    cases world.roster[other]? with
    | none => rfl
    | some animal => simp only [Option.map_some, h]
  · rw [if_neg same]

/-- When one of some animals changes, it alone counts for something else. -/
theorem sum_vigor_changed (hn : ids.Nodup) (hid : id ∈ ids)
    (ha : world.roster[id]? = some animal) (change : Animal → Animal) :
    (ids.map (world.changed id change).vigor).sum =
      (ids.map world.vigor).sum - max 0 animal.energy + max 0 (change animal).energy := by
  obtain ⟨before, after, rfl⟩ := List.append_of_mem hid
  have apart := (List.nodup_cons.mp (List.nodup_middle.mp hn)).1
  have self : (world.changed id change).vigor id = max 0 (change animal).energy := by
    rw [vigor, roster_changed, if_pos rfl, ha]
    rfl
  have others (other : Nat) (ho : other ∈ before ++ after) :
      (world.changed id change).vigor other = world.vigor other := by
    have differs : id ≠ other := fun same => apart (same ▸ ho)
    rw [vigor, vigor, roster_changed, if_neg differs]
  have first : before.map (world.changed id change).vigor = before.map world.vigor :=
    List.map_congr_left fun other ho => others other (List.mem_append_left _ ho)
  have last : after.map (world.changed id change).vigor = after.map world.vigor :=
    List.map_congr_left fun other ho => others other (List.mem_append_right _ ho)
  simp only [List.map_append, List.map_cons, List.sum_append, List.sum_cons, first, last, self,
    vigor_of_getElem? ha]
  omega

/-- Food that is added to the ground is no more than what is given. -/
theorem plantMass_filled_le (h : Occupancy ids world) {cell : Cell}
    (inside : world.grid.Inside cell)
    (amount : Int) :
    (world.filled cell amount).grid.plantMass ≤ world.grid.plantMass + max 0 amount := by
  have bound := h.maxFood_nonneg
  rw [filled]
  split
  · omega
  · change (world.grid.put cell _).plantMass ≤ _
    rw [Grid.plantMass_put inside]
    omega

/-- The energy of a world is that of its ground and its animals. -/
theorem wealth_congr {after : World G} (grid : after.grid = world.grid)
    (roster : after.roster = world.roster) (ids : List Nat) :
    wealth ids after = wealth ids world := by
  have same : after.vigor = world.vigor := by
    funext id
    rw [vigor, vigor, roster]
  rw [wealth, wealth, grid, same]

/-- A change of an animal that leaves every energy as it is leaves the energy of the world. -/
theorem wealth_changed_of_energy (world : World G) (ids : List Nat) (id : Nat)
    (change : Animal → Animal) (h : ∀ animal, (change animal).energy = animal.energy) :
    wealth ids (world.changed id change) = wealth ids world := by
  have same : ids.map (world.changed id change).vigor = ids.map world.vigor :=
    List.map_congr_left fun other _ => vigor_changed_of_energy h id other
  rw [wealth, same]
  rfl

/-- A change of an animal among some changes their energy by the energy of the animal. -/
theorem wealth_changed (hn : ids.Nodup) (hid : id ∈ ids) (ha : world.roster[id]? = some animal)
    (change : Animal → Animal) :
    wealth ids (world.changed id change) =
      wealth ids world - max 0 animal.energy + max 0 (change animal).energy := by
  have ground : (world.changed id change).grid = world.grid := rfl
  rw [wealth, wealth, sum_vigor_changed hn hid ha, ground]
  omega

/-- The energy of a world whose ground alone changed differs by the plant mass. -/
theorem wealth_of_ground (ids : List Nat) (world : World G) (grid : Grid) :
    wealth ids { world with grid } = wealth ids world - world.grid.plantMass + grid.plantMass := by
  have same : (ids.map ({ world with grid } : World G).vigor) = ids.map world.vigor := rfl
  rw [wealth, wealth, same]
  dsimp only
  omega

/-- A newcomer brings its own energy along. -/
theorem wealth_settled (h : Occupancy ids world) (newcomer : Animal) :
    wealth (ids ++ [world.roster.size]) (world.settled newcomer) =
      wealth ids world + max 0 newcomer.energy := by
  have old : ids.map (world.settled newcomer).vigor = ids.map world.vigor := by
    apply List.map_congr_left
    intro other ho
    have same : (world.settled newcomer).roster[other]? = world.roster[other]? :=
      h.getElem?_push ho newcomer
    rw [vigor, vigor, same]
  have new : (world.settled newcomer).vigor world.roster.size = max 0 newcomer.energy :=
    vigor_of_getElem? Array.getElem?_push_size
  have ground : (world.settled newcomer).grid = world.grid := rfl
  simp only [wealth, List.map_append, List.map_cons, List.map_nil, List.sum_append, List.sum_cons,
    List.sum_nil, old, new, ground]
  omega

/-! ## Deeds -/

/-- A meal moves energy from the ground to the animal. -/
theorem wealth_grazed (h : Occupancy ids world) (hid : id ∈ ids)
    (ha : world.roster[id]? = some animal) (alive : 0 ≤ animal.energy) :
    wealth ids (world.grazed id animal) = wealth ids world := by
  obtain ⟨-, inside, food⟩ := h.stands hid ha
  have bounds := h.bounded _ inside
  have taken : world.meal animal = min (world.grid.valueAt animal.cell) Animal.bite := by
    simp only [meal, Animal.bite]
    omega
  have sown : wealth ids (world.sown animal.cell (max obstacle
      (min world.settings.maxFood (world.grid.valueAt animal.cell - world.meal animal)))) =
        wealth ids world - world.meal animal := by
    rw [World.sown, wealth_of_ground, Grid.plantMass_put inside, taken]
    simp only [obstacle, Animal.bite]
    omega
  have known : (world.sown animal.cell (max obstacle (min world.settings.maxFood
      (world.grid.valueAt animal.cell - world.meal animal)))).roster[id]? = some animal := ha
  rw [grazed, wealth_changed h.nodup hid known, sown, taken]
  simp only [Animal.bite]
  omega

/-- A hit moves the energy of the victim to the ground, as far as there is room. -/
theorem wealth_struck_le (h : Occupancy ids world) {victim : Nat} {target : Animal}
    (hv : world.occupied[world.grid.wrapped animal.front]? = some victim)
    (ht : world.roster[victim]? = some target) :
    wealth ids (world.struck id victim (world.grid.wrapped animal.front) target.energy) ≤
      wealth ids world := by
  have front := Grid.inside_wrapped h.width_pos h.height_pos animal.front
  obtain ⟨member, -⟩ := (h.map _ _).mp hv
  have deposit := plantMass_filled_le h front target.energy
  have known : (world.filled (world.grid.wrapped animal.front) target.energy).roster[victim]? =
      some target := by
    rw [filled_eq]
    exact ht
  have hits := wealth_changed_of_energy ((world.filled (world.grid.wrapped animal.front)
    target.energy).changed victim fun animal => { animal with energy := Animal.hitEnergy }) ids id
      (fun animal => { animal with wait := Animal.waitHit }) fun _ => rfl
  rw [struck, hits, wealth_changed h.nodup member known, filled_eq, wealth_of_ground]
  simp only [Animal.hitEnergy]
  omega

/-- A fork divides the energy of the parent. -/
theorem wealth_borne_le (h : Occupancy ids world) (hid : id ∈ ids)
    (ha : world.roster[id]? = some animal) (alive : 0 ≤ animal.energy)
    (percentage kept given : Int) (inherited : Inheritance) (rng : G)
    (hp : leastPercentage ≤ percentage ∧ percentage ≤ greatestPercentage)
    (hs : splitEnergy (.int animal.energy) (.int percentage) forkYield = .ok (kept, given)) :
    wealth (ids ++ [world.roster.size]) (world.borne id
      (child animal (world.grid.wrapped animal.front) given inherited) kept rng) ≤
        wealth ids world := by
  simp only [leastPercentage, greatestPercentage] at hp
  obtain ⟨kept_nonneg, given_nonneg, split⟩ := splitEnergy_le alive (by omega) hs
  have tired : Occupancy ids (world.changed id fun parent =>
      { parent with energy := kept, wait := Animal.waitFork }) :=
    h.changed _ fun animal _ => ⟨rfl, fun sound =>
      sound.withWait animal.cell kept Animal.waitFork animal.execution (by decide) (by decide)⟩
  have size : (world.changed id fun parent =>
      { parent with energy := kept, wait := Animal.waitFork }).roster.size = world.roster.size :=
    Array.size_modify
  have joined := wealth_settled tired
    (child animal (world.grid.wrapped animal.front) given inherited)
  rw [wealth_changed h.nodup hid ha, size] at joined
  refine (wealth_congr ?_ ?_ _).trans_le (joined.le.trans ?_)
  · rfl
  · rfl
  · simp only [child]
    omega

section

variable [Source G]

/-- A deed brings no energy into the world. -/
theorem Deed.wealth_le {after : World G} (hd : Deed world id animal after)
    (h : Occupancy world.animals world) (hid : id ∈ world.animals)
    (ha : world.roster[id]? = some animal) (alive : 0 ≤ animal.energy) :
    total after ≤ total world := by
  cases hd with
  | idle => exact le_rfl
  | left rng =>
    exact (wealth_changed_of_energy (world.reseeded rng) _ id Animal.turnLeft fun _ => rfl).le
  | right rng =>
    exact (wealth_changed_of_energy (world.reseeded rng) _ id Animal.turnRight fun _ => rfl).le
  | step there inside hopen =>
    exact (wealth_changed_of_energy world _ id
      (fun animal => { animal with cell := there, wait := Animal.waitMove }) fun _ => rfl).le
  | graze => exact (wealth_grazed h hid ha alive).le
  | strike victim target hv ht =>
    have same : (world.struck id victim (world.grid.wrapped animal.front) target.energy).animals =
        world.animals := by
      rw [struck, filled_eq]
      rfl
    rw [total, same]
    exact wealth_struck_le h hv ht
  | strain rng => exact (wealth_changed_of_energy world _ id Animal.tired fun _ => rfl).le
  | bear percentage kept given inherited rng hopen hp hi hs =>
    exact wealth_borne_le h hid ha alive percentage kept given inherited rng hp hs

/-! ## Events -/

omit [Source G] in
/-- Whoever is buried leaves no more energy on the ground than it had. -/
theorem wealth_buried_le {kept rest : List Nat} (h : Occupancy (kept ++ id :: rest) world)
    (ha : world.roster[id]? = some animal) :
    wealth (kept ++ rest) (world.buried animal) ≤ wealth (kept ++ id :: rest) world := by
  obtain ⟨-, inside, -⟩ := h.stands (List.mem_append_right _ List.mem_cons_self) ha
  have deposit := plantMass_filled_le h inside animal.energy
  have leaves : wealth (kept ++ id :: rest) world =
      wealth (kept ++ rest) world + max 0 animal.energy := by
    simp only [wealth, List.map_append, List.map_cons, List.sum_append, List.sum_cons,
      vigor_of_getElem? ha]
    omega
  have ground : wealth (kept ++ rest) (world.buried animal) =
      wealth (kept ++ rest)
        { world with grid := (world.filled animal.cell animal.energy).grid } := by
    rw [buried, filled_eq]
    rfl
  rw [ground, wealth_of_ground, leaves]
  omega

/-- An event changes the energy of the world by no more than it brings. -/
theorem Happens.wealth_le {event : Event} {ids' : List Nat} {after : World G}
    (he : Happens event ids world ids' after) (h : Occupancy ids world) :
    wealth ids' after ≤ wealth ids world + event.gain := by
  have free (zero : event.gain = 0) (le : wealth ids' after ≤ wealth ids world) :
      wealth ids' after ≤ wealth ids world + event.gain := by
    rw [zero, add_zero]
    exact le
  cases he with
  | note grid settings roster occupied => exact free rfl (wealth_congr grid roster ids).le
  | blob tended mass =>
    rw [wealth_of_ground, mass, Event.gain]
    omega
  | pause hid ha waits =>
    exact free rfl (wealth_changed_of_energy world ids _
      (fun animal => { animal with wait := animal.wait - 1 }) fun _ => rfl).le
  | deed hid ha alive hd => exact free rfl (hd.wealth_le h hid ha (by omega))
  | hold hid put =>
    exact free rfl (wealth_changed_of_energy world ids _
      (fun animal => { animal with execution := put animal.execution }) fun _ => rfl).le
  | decay hid =>
    obtain ⟨animal, ha, -⟩ := h.known _ hid
    refine free rfl ?_
    rw [wealth_changed h.nodup hid ha]
    simp only [Animal.energyDecay]
    omega
  | removal ha => exact free rfl (wealth_buried_le h ha)
  | spawn sound inside hopen energy =>
    rw [wealth_settled h, energy, Event.gain]
    exact le_rfl

/-- A run of events changes the energy of the world by no more than it brings. -/
theorem Passes.wealth_le {events : List Event} {ids' : List Nat} {after : World G}
    (hp : Passes events ids world ids' after) (h : Occupancy ids world) :
    wealth ids' after ≤ wealth ids world + gains events := by
  induction hp with
  | nil => rw [gains_nil, add_zero]
  | cons event _ ih =>
    have first := event.wealth_le h
    have rest := ih (event.occupancy h)
    rw [gains_cons]
    omega

end

end Vivarium.World
