import Vivarium.Proofs.Evolution.Inheritance
import Vivarium.Proofs.World.Occupancy
import Vivarium.World.Action

/-!
# Deeds

What an animal that occupies a world can do to it. Each action comes to a world that is written down
exactly, and `Deed` is the list of these worlds: whatever a program asks for, and also if a fault
stops it halfway, the world that is left is one of them. A deed keeps the occupancy.
-/

namespace Vivarium

/-- An animal that has to wait after a fork. -/
def Animal.tired (animal : Animal) : Animal :=
  { animal with wait := waitFork }

namespace World

variable {G : Type}

/-! ## The worlds after an action -/

/-- The food that an animal takes in one bite. -/
def meal (world : World G) (animal : Animal) : Int :=
  max 0 (min (world.grid.valueAt animal.cell) Animal.bite)

/-- The world after a meal. -/
def grazed (world : World G) (id : Nat) (animal : Animal) : World G :=
  (world.sown animal.cell (max obstacle
    (min world.settings.maxFood (world.grid.valueAt animal.cell - world.meal animal)))).changed id
      fun eater => { eater with energy := eater.energy + world.meal animal, wait := Animal.waitEat }

/-- The world after a hit on an animal on a cell. -/
def struck (world : World G) (id victim : Nat) (cell : Cell) (energy : Int) : World G :=
  ((world.filled cell energy).changed victim
    fun animal => { animal with energy := Animal.hitEnergy }).changed id
      fun animal => { animal with wait := Animal.waitHit }

/-- The child of a fork. -/
def child (parent : Animal) (cell : Cell) (given : Int) (inherited : Inheritance) : Animal :=
  { cell
    body := inherited.body
    program := inherited.program
    dx := parent.dx
    dy := parent.dy
    energy := given
    wait := Animal.waitFork
    color := inherited.color }

/-- The world after a fork that bore a child. -/
def borne (world : World G) (id : Nat) (newborn : Animal) (kept : Int) (rng : G) : World G :=
  let tired := (world.changed id fun parent =>
    { parent with energy := kept, wait := Animal.waitFork }).reseeded rng
  { tired with
    roster := tired.roster.push newborn
    animals := world.animals ++ [world.roster.size]
    occupied := world.occupied.insert newborn.cell world.roster.size
    births := world.births + 1 }

/-! ## What the actions come to -/

section

variable {ids : List Nat} {world : World G} {id : Nat} {animal : Animal}

/-- The cell ahead of a known animal is found. -/
theorem outcome_ahead (hw : 0 < world.grid.width) (hh : 0 < world.grid.height)
    (ha : world.roster[id]? = some animal) :
    (ahead id).outcome world = (.ok (world.grid.wrapped animal.front), world) := by
  rw [ahead, outcome_animal_bind ha, outcome_wrap, Grid.wrap_eq hw hh]

/-- The cell behind a known animal is found. -/
theorem outcome_behind (hw : 0 < world.grid.width) (hh : 0 < world.grid.height)
    (ha : world.roster[id]? = some animal) :
    (behind id).outcome world = (.ok (world.grid.wrapped animal.back), world) := by
  rw [behind, outcome_animal_bind ha, outcome_wrap, Grid.wrap_eq hw hh]

/-- An animal steps onto a cell if the cell is open, and stays otherwise. -/
theorem outcome_stepTo (h : Occupancy ids world) (hid : id ∈ ids)
    (ha : world.roster[id]? = some animal) {cell : Cell} (inside : world.grid.Inside cell) :
    (stepTo id cell).outcome world =
      (.ok (), if world.isOpen cell then world.relocated id animal.cell cell else world) := by
  rw [stepTo, Attempt.outcome_bind_of_ok (outcome_isFree_of_inside inside)]
  by_cases hopen : world.isOpen cell
  · have present : world.occupied.contains animal.cell := by
      rw [Std.ExtTreeMap.contains_eq_isSome_getElem?, h.occupied_eq hid ha]
      rfl
    rw [if_pos hopen, if_pos hopen, moveAnimal, bind_assoc, outcome_animal_bind ha, bind_assoc,
      Attempt.outcome_bind_of_ok (outcome_vacate present), bind_assoc,
      Attempt.outcome_bind_of_ok (outcome_changeAnimal _ _ _),
      Attempt.outcome_bind_of_ok (Attempt.outcome_modify _ _), outcome_changeAnimal]
    simp only [relocated, changed, modify_modify]
  · rw [if_neg hopen, if_neg hopen]
    rfl

/-- An animal eats what it can from its cell. -/
theorem outcome_eat (h : Occupancy ids world) (hid : id ∈ ids)
    (ha : world.roster[id]? = some animal) :
    (eat id).outcome world = (.ok (), world.grazed id animal) := by
  obtain ⟨-, inside, -⟩ := h.stands hid ha
  rw [eat, outcome_animal_bind ha, Attempt.outcome_bind_of_ok (outcome_food_of_inside inside),
    Attempt.outcome_bind_of_ok (outcome_changeAnimal _ _ _)]
  refine (Attempt.outcome_bind_of_ok (outcome_setFood_of_inside ?_ ?_ _) _).trans ?_
  · exact inside
  · exact h.maxFood_le
  · rw [outcome_changeAnimal]
    simp only [grazed, sown, changed, modify_modify]
    rfl

/-- An animal hits the one in front of it, if there is one. -/
theorem outcome_hit (h : Occupancy ids world) (ha : world.roster[id]? = some animal) :
    (hit id).outcome world =
      match world.occupied[world.grid.wrapped animal.front]? with
      | none => (.ok (), world)
      | some victim =>
        match world.roster[victim]? with
        | none => (.error .listIndex, world)
        | some target =>
          (.ok (), world.struck id victim (world.grid.wrapped animal.front) target.energy) := by
  rw [hit, Attempt.outcome_bind_of_ok (outcome_ahead h.width_pos h.height_pos ha),
    Attempt.outcome_bind_of_ok (outcome_animalAt _ _)]
  have inside := Grid.inside_wrapped h.width_pos h.height_pos animal.front
  generalize world.grid.wrapped animal.front = cell at *
  cases hv : world.occupied[cell]? with
  | none => rfl
  | some victim =>
    obtain ⟨-, target, ht, hc⟩ := (h.map _ _).mp hv
    obtain ⟨added, deposit⟩ :=
      outcome_addFood_of_inside inside h.maxFood_nonneg h.maxFood_le target.energy
    dsimp only
    rw [ht, outcome_animal_bind ht]
    dsimp only
    by_cases rich : 0 < target.energy
    · rw [if_pos rich, Attempt.outcome_bind_of_ok deposit]
      rfl
    · have idle : world.filled cell target.energy = world := by
        rw [filled, if_pos (.inr (by omega))]
      rw [if_neg rich, struck, idle]
      rfl

variable [Source G]

/-- An animal turns to the side that a coin shows. -/
theorem outcome_turnRandom (id : Nat) (world : World G) :
    (turnRandom id).outcome world =
      (.ok (), (world.reseeded (Draw.coin world.rng).2).changed id
        (if (Draw.coin world.rng).1 then Animal.turnLeft else Animal.turnRight)) := by
  rw [turnRandom, Attempt.outcome_bind, outcome_draw, Attempt.outcome_draw]
  dsimp only
  cases (Draw.coin world.rng : Bool × G).1 <;> rfl

/-- What a child takes from an animal that forks. -/
def legacy (world : World G) (animal : Animal) : Except Fault Inheritance × G :=
  (inherit animal.body animal.program animal.color world.settings.mutation).outcome world.rng

/-- An animal that forks is tired in any case. It bears a child if the cell ahead is open, unless
what the child takes or the energies of the two are a fault. -/
theorem outcome_fork (h : Occupancy ids world) (ha : world.roster[id]? = some animal)
    (asked : Option Number) :
    (fork id asked).outcome world =
      match clampPercentage asked with
      | .error fault => (.error fault, world)
      | .ok percentage =>
        if world.isOpen (world.grid.wrapped animal.front) then
          match world.legacy animal with
          | (.error fault, rng) => (.error fault, (world.changed id Animal.tired).reseeded rng)
          | (.ok inherited, rng) =>
            match splitEnergy (.int animal.energy) (.int percentage) forkYield with
            | .error fault => (.error fault, (world.changed id Animal.tired).reseeded rng)
            | .ok (kept, given) =>
              (.ok (some world.roster.size), world.borne id
                (child animal (world.grid.wrapped animal.front) given inherited) kept rng)
        else (.ok none, world.changed id Animal.tired) := by
  have inside := Grid.inside_wrapped h.width_pos h.height_pos animal.front
  have tired : (world.changed id Animal.tired).roster[id]? = some animal.tired := by
    rw [roster_changed, if_pos rfl, ha]
    rfl
  rw [fork, Attempt.outcome_bind, Attempt.outcome_ofExcept]
  cases clampPercentage asked with
  | error fault => rfl
  | ok percentage =>
    dsimp only
    rw [Attempt.outcome_bind_of_ok (outcome_changeAnimal _ _ _)]
    have here : (ahead id).outcome (world.changed id Animal.tired) =
        (.ok (world.grid.wrapped animal.front), world.changed id Animal.tired) := by
      apply outcome_ahead _ _ tired
      · exact h.width_pos
      · exact h.height_pos
    have free : (isFree (world.grid.wrapped animal.front)).outcome (world.changed id Animal.tired) =
        (.ok (world.isOpen (world.grid.wrapped animal.front)), world.changed id Animal.tired) :=
      outcome_isFree_of_inside inside
    change Attempt.outcome _ (world.changed id Animal.tired) = _
    rw [Attempt.outcome_bind_of_ok here, Attempt.outcome_bind_of_ok free]
    by_cases hopen : world.isOpen (world.grid.wrapped animal.front)
    · have drawn : (draw (inherit animal.tired.body animal.tired.program animal.tired.color
          (world.changed id Animal.tired).settings.mutation)).outcome
            (world.changed id Animal.tired) =
          ((world.legacy animal).1,
            (world.changed id Animal.tired).reseeded (world.legacy animal).2) :=
        outcome_draw _ _
      rw [if_pos hopen, if_pos hopen, outcome_animal_bind tired,
        Attempt.outcome_bind_of_ok (Attempt.outcome_get _), Attempt.outcome_bind, drawn]
      rcases world.legacy animal with ⟨result, rng⟩
      cases result with
      | error fault => rfl
      | ok inherited =>
        have energy : animal.tired.energy = animal.energy := rfl
        dsimp only
        rw [Attempt.outcome_bind, Attempt.outcome_ofExcept, energy]
        cases splitEnergy (.int animal.energy) (.int percentage) forkYield with
        | error fault => rfl
        | ok parts =>
          dsimp only
          rw [Attempt.outcome_bind_of_ok (outcome_changeAnimal _ _ _)]
          simp only [borne, changed, reseeded, addNewborn, bind_assoc]
          rw [Attempt.outcome_bind_of_ok (outcome_place _ _)]
          simp only [modify_modify, Array.size_modify]
          rfl
    · rw [if_neg hopen, if_neg hopen]
      rfl

end

/-! ## Deeds -/

section

variable [Source G]

/-- The worlds that an animal can leave when it acts. -/
inductive Deed (world : World G) (id : Nat) (animal : Animal) : World G → Prop where
  /-- Nothing was done. -/
  | idle : Deed world id animal world
  /-- The animal turned to the left. -/
  | left (rng : G) : Deed world id animal ((world.reseeded rng).changed id Animal.turnLeft)
  /-- The animal turned to the right. -/
  | right (rng : G) : Deed world id animal ((world.reseeded rng).changed id Animal.turnRight)
  /-- The animal stepped onto an open cell. -/
  | step (there : Cell) (inside : world.grid.Inside there) (hopen : world.isOpen there) :
    Deed world id animal (world.relocated id animal.cell there)
  /-- The animal ate. -/
  | graze : Deed world id animal (world.grazed id animal)
  /-- The animal hit the one on the cell ahead. -/
  | strike (victim : Nat) (target : Animal)
    (hv : world.occupied[world.grid.wrapped animal.front]? = some victim)
    (ht : world.roster[victim]? = some target) :
    Deed world id animal (world.struck id victim (world.grid.wrapped animal.front) target.energy)
  /-- The animal got tired by a fork without a child. -/
  | strain (rng : G) : Deed world id animal ((world.changed id Animal.tired).reseeded rng)
  /-- The animal bore a child onto the cell ahead. -/
  | bear (percentage kept given : Int) (inherited : Inheritance) (rng : G)
    (hopen : world.isOpen (world.grid.wrapped animal.front))
    (hp : leastPercentage ≤ percentage ∧ percentage ≤ greatestPercentage)
    (hi : world.legacy animal = (.ok inherited, rng))
    (hs : splitEnergy (.int animal.energy) (.int percentage) forkYield = .ok (kept, given)) :
    Deed world id animal (world.borne id
      (child animal (world.grid.wrapped animal.front) given inherited) kept rng)

/-- The percentage that a fork uses is within its bounds. -/
theorem bounds_of_clampPercentage {asked : Option Number} {percentage : Int}
    (h : clampPercentage asked = .ok percentage) :
    leastPercentage ≤ percentage ∧ percentage ≤ greatestPercentage := by
  have clamped : ∃ whole, max leastPercentage (min greatestPercentage whole) = percentage := by
    cases asked with
    | none => exact ⟨0, Except.ok.inj h⟩
    | some n =>
      obtain ⟨whole, -, h⟩ := bind_eq_ok_iff.mp h
      exact ⟨whole, Except.ok.inj h⟩
  obtain ⟨whole, value⟩ := clamped
  simp only [leastPercentage, greatestPercentage] at *
  omega

variable {ids : List Nat} {world : World G} {id : Nat} {animal : Animal}

/-- A fork is a deed, also when it fails. -/
theorem deed_fork (h : Occupancy ids world) (ha : world.roster[id]? = some animal)
    (asked : Option Number) : Deed world id animal ((fork id asked).outcome world).2 := by
  rw [outcome_fork h ha]
  cases hp : clampPercentage asked with
  | error fault => exact .idle
  | ok percentage =>
    dsimp only
    by_cases hopen : world.isOpen (world.grid.wrapped animal.front)
    · rw [if_pos hopen]
      rcases hi : world.legacy animal with ⟨result, rng⟩
      cases result with
      | error fault => exact .strain rng
      | ok inherited =>
        dsimp only
        cases hs : splitEnergy (.int animal.energy) (.int percentage) forkYield with
        | error fault => exact .strain rng
        | ok parts =>
          exact .bear percentage parts.1 parts.2 inherited rng hopen
            (bounds_of_clampPercentage hp) hi hs
    · rw [if_neg hopen]
      exact .strain world.rng

/-- A step onto a cell inside is a deed, also when the cell is not open. -/
theorem deed_stepTo (h : Occupancy ids world) (hid : id ∈ ids)
    (ha : world.roster[id]? = some animal) {cell : Cell} (inside : world.grid.Inside cell) :
    Deed world id animal ((stepTo id cell).outcome world).2 := by
  rw [outcome_stepTo h hid ha inside]
  dsimp only
  split
  · exact .step cell inside ‹_›
  · exact .idle

/-- Whatever a program asks for, carrying it out is a deed. -/
theorem deed_perform (h : Occupancy ids world) (hid : id ∈ ids)
    (ha : world.roster[id]? = some animal) (request : Request) :
    Deed world id animal ((perform id request).outcome world).2 := by
  have inside := Grid.inside_wrapped h.width_pos h.height_pos
  have discard {α : Type} (attempt : Sim G α) :
      ((do let _ ← attempt : Sim G Unit).outcome world).2 = (attempt.outcome world).2 := by
    rw [Attempt.outcome_bind]
    rcases attempt.outcome world with ⟨result, after⟩
    cases result <;> rfl
  match request with
  | .act .move =>
    rw [perform, move, Attempt.outcome_bind_of_ok (outcome_ahead h.width_pos h.height_pos ha)]
    exact deed_stepTo h hid ha (inside _)
  | .act .moveBack =>
    rw [perform, moveBack, Attempt.outcome_bind_of_ok (outcome_behind h.width_pos h.height_pos ha)]
    exact deed_stepTo h hid ha (inside _)
  | .act .turnLeft => exact .left world.rng
  | .act .turnRight => exact .right world.rng
  | .act .turnRandom =>
    rw [perform, outcome_turnRandom]
    cases (Draw.coin world.rng : Bool × G).1 with
    | true => exact .left _
    | false => exact .right _
  | .act .eat =>
    rw [perform, outcome_eat h hid ha]
    exact .graze
  | .act .hit =>
    rw [perform, outcome_hit h ha]
    cases hv : world.occupied[world.grid.wrapped animal.front]? with
    | none => exact .idle
    | some victim =>
      dsimp only
      cases ht : world.roster[victim]? with
      | none => exact .idle
      | some target => exact .strike victim target hv ht
  | .act .fork =>
    rw [perform, discard]
    exact deed_fork h ha none
  | .fork percentage =>
    rw [perform, discard]
    exact deed_fork h ha percentage

/-! ## Deeds keep the occupancy -/

omit [Source G] in
/-- Food that is added to a cell tends the ground. -/
theorem tended_filled {cell : Cell} (inside : world.grid.Inside cell)
    (hl : 0 ≤ world.settings.maxFood) (amount : Int) :
    Grid.Tended world.settings.maxFood world.grid (world.filled cell amount).grid := by
  rw [filled]
  split
  · exact .refl _
  · exact .put inside (by omega) (by omega) (by omega)

omit [Source G] in
/-- A meal tends the ground. -/
theorem tended_grazed (h : Occupancy ids world) (id : Nat)
    (inside : world.grid.Inside animal.cell) (food : 0 ≤ world.grid.valueAt animal.cell) :
    Grid.Tended world.settings.maxFood world.grid (world.grazed id animal).grid := by
  have bound := h.maxFood_nonneg
  refine .put inside food ?_ ?_ <;> simp only [meal, Animal.bite, obstacle] <;> omega

omit [Source G] in
/-- A hit keeps the occupancy. -/
theorem Occupancy.struck (h : Occupancy ids world) (victim : Nat) {cell : Cell}
    (inside : world.grid.Inside cell) (energy : Int) :
    Occupancy ids (world.struck id victim cell energy) := by
  have deposit : Occupancy ids (world.filled cell energy) := by
    rw [filled_eq]
    exact h.tended (tended_filled inside h.maxFood_nonneg energy)
  have hit : Occupancy ids ((world.filled cell energy).changed victim
      fun animal => { animal with energy := Animal.hitEnergy }) :=
    deposit.changed _ fun animal _ => ⟨rfl, fun sound =>
      sound.withWait animal.cell Animal.hitEnergy animal.wait animal.execution sound.wait_nonneg
        sound.wait_le⟩
  exact hit.changed _ fun animal _ => ⟨rfl, fun sound =>
    sound.withWait animal.cell animal.energy Animal.waitHit animal.execution (by decide)
      (by decide)⟩

/-- A fork that bore a child keeps the occupancy, and the child joins it. -/
theorem Occupancy.borne (h : Occupancy ids world) (hid : id ∈ ids)
    (ha : world.roster[id]? = some animal)
    (hopen : world.isOpen (world.grid.wrapped animal.front)) {inherited : Inheritance} {rng : G}
    (hi : world.legacy animal = (.ok inherited, rng)) (kept given : Int) :
    Occupancy (ids ++ [world.roster.size]) (world.borne id
      (child animal (world.grid.wrapped animal.front) given inherited) kept rng) := by
  obtain ⟨sound, -⟩ := h.stands hid ha
  obtain ⟨-, -, color⟩ := inherit_cases hi
  have inside := Grid.inside_wrapped h.width_pos h.height_pos animal.front
  have tired : Occupancy ids (world.changed id fun parent =>
      { parent with energy := kept, wait := Animal.waitFork }) :=
    h.changed _ fun animal _ => ⟨rfl, fun sound =>
      sound.withWait animal.cell kept Animal.waitFork animal.execution (by decide) (by decide)⟩
  have newborn : (child animal (world.grid.wrapped animal.front) given inherited).Sound :=
    ⟨sound.heading, (by decide : 0 ≤ Animal.waitFork), (by decide : Animal.waitFork ≤ 10),
      color.1, color.2⟩
  have size : (world.changed id fun parent =>
      { parent with energy := kept, wait := Animal.waitFork }).roster.size = world.roster.size :=
    Array.size_modify
  have joined := tired.place newborn inside hopen
  rw [size] at joined
  exact joined.congr rfl rfl rfl rfl

/-- A deed keeps the occupancy. -/
theorem Deed.occupancy {after : World G} (hd : Deed world id animal after)
    (h : Occupancy world.animals world) (hid : id ∈ world.animals)
    (ha : world.roster[id]? = some animal) : Occupancy after.animals after := by
  have front := Grid.inside_wrapped h.width_pos h.height_pos animal.front
  cases hd with
  | idle => exact h
  | left rng =>
    have drawn : Occupancy world.animals (world.reseeded rng) := h.congr rfl rfl rfl rfl
    exact drawn.changed _ fun _ _ => ⟨rfl, Animal.Sound.turnLeft⟩
  | right rng =>
    have drawn : Occupancy world.animals (world.reseeded rng) := h.congr rfl rfl rfl rfl
    exact drawn.changed _ fun _ _ => ⟨rfl, Animal.Sound.turnRight⟩
  | step there inside hopen => exact h.relocated hid ha inside hopen
  | graze =>
    obtain ⟨-, inside, food⟩ := h.stands hid ha
    exact (h.tended (tended_grazed h id inside food)).changed _ fun animal _ => ⟨rfl, fun sound =>
      sound.withWait animal.cell _ Animal.waitEat animal.execution (by decide) (by decide)⟩
  | strike victim target hv ht =>
    have same : (world.struck id victim (world.grid.wrapped animal.front) target.energy).animals =
        world.animals := by
      rw [World.struck, filled_eq]
      rfl
    rw [same]
    exact h.struck victim front target.energy
  | strain rng =>
    have tired : Occupancy world.animals (world.changed id Animal.tired) :=
      h.changed _ fun animal _ => ⟨rfl, fun sound =>
        sound.withWait animal.cell animal.energy Animal.waitFork animal.execution (by decide)
          (by decide)⟩
    exact tired.congr rfl rfl rfl rfl
  | bear percentage kept given inherited rng hopen hp hi hs =>
    exact h.borne hid ha hopen hi kept given

end

end World

end Vivarium
