import Vivarium.Proofs.Evolution.Body
import Vivarium.Proofs.World.Event
import Vivarium.World.Step

/-!
# Spawning

A spawn puts the first animal of a new lineage onto a free cell, or finds none. Filling up the
population is a run of events, and every new lineage brings the energy of its first animal.
-/

namespace Vivarium.World

variable {G : Type} [Source G]
variable {world : World G}

omit [Source G] in
/-- The free cells are the cells that are inside and open. -/
theorem mem_freeCells_iff {cell : Cell} :
    cell ∈ world.freeCells ↔ world.grid.Inside cell ∧ world.isOpen cell := by
  have listed (x : Fin world.grid.width) (y : Fin world.grid.height) :
      ((⟨x.val, y.val⟩ : Cell), world.grid.value x y) ∈ world.grid.contents := by
    have wide := x.isLt
    rw [Grid.contents, if_neg (by omega)]
    exact List.mem_flatMap.mpr
      ⟨y, List.mem_finRange y, List.mem_map.mpr ⟨x, List.mem_finRange x, rfl⟩⟩
  rw [freeCells, List.mem_filterMap]
  constructor
  · rintro ⟨⟨place, value⟩, found, kept⟩
    dsimp only at kept
    by_cases free : 0 ≤ value && !world.occupied.contains place
    · rw [if_pos free, Option.some.injEq] at kept
      subst kept
      rw [Grid.contents] at found
      by_cases narrow : world.grid.width = 0
      · rw [if_pos narrow] at found
        contradiction
      · rw [if_neg narrow] at found
        obtain ⟨y, -, hy⟩ := List.mem_flatMap.mp found
        obtain ⟨x, -, hx⟩ := List.mem_map.mp hy
        obtain ⟨rfl, rfl⟩ := Prod.mk.injEq .. ▸ hx
        exact ⟨Grid.inside_natCast _ x y, by rw [isOpen, Grid.valueAt_natCast]; exact free⟩
    · rw [if_neg free] at kept
      contradiction
  · rintro ⟨inside, hopen⟩
    obtain ⟨x, y, rfl⟩ := Grid.exists_natCast_of_inside inside
    rw [isOpen, Grid.valueAt_natCast] at hopen
    exact ⟨_, listed x y, if_pos hopen⟩

/-- What is known of the first animal of a new lineage. -/
structure Newcomer (world : World G) (animal : Animal) : Prop where
  free : animal.cell ∈ world.freeCells
  sound : animal.Sound
  energy : animal.energy = startEnergy
  program : animal.program = .herbivore
  execution : animal.execution = none
  body : ∃ before after : G,
    (generateBody generationAttempts).outcome before = (.ok animal.body, after)

/-- A spawn finds no free cell, or draws a newcomer onto a free one. -/
theorem exists_outcome_spawn (world : World G) :
    (world.freeCells = [] ∧ spawn.outcome world = (.ok none, world)) ∨
      ∃ newcomer rng, spawn.outcome world =
          (.ok (some world.roster.size), (world.reseeded rng).settled newcomer) ∧
        Newcomer world newcomer := by
  rw [spawn, Attempt.outcome_bind_of_ok (Attempt.outcome_get world)]
  by_cases free : world.freeCells ≠ []
  · refine .inr ?_
    rw [dif_pos free, Attempt.outcome_bind_of_ok (by rw [outcome_draw, Attempt.outcome_draw])]
    generalize hcell : (Draw.choose world.freeCells free world.rng : Cell × G) = chosen
    have member : chosen.1 ∈ world.freeCells := by
      rw [← hcell]
      exact List.getElem_mem _
    obtain ⟨body, rng, drawn, -⟩ := exists_generateBody generationAttempts chosen.2
    have body_drawn : (draw (generateBody generationAttempts)).outcome (world.reseeded chosen.2) =
        (.ok body, (world.reseeded chosen.2).reseeded rng) := by
      rw [outcome_draw]
      change ((Attempt.outcome _ chosen.2).1, World.reseeded _ (Attempt.outcome _ chosen.2).2) = _
      rw [drawn]
    rw [Attempt.outcome_bind_of_ok body_drawn,
      Attempt.outcome_bind_of_ok (by rw [outcome_draw, Attempt.outcome_draw])]
    have bound := (Draw.below 256 (by decide) rng : Fin 256 × G).1.isLt
    refine ⟨{ cell := chosen.1
              body
              color := (Draw.below 256 (by decide) rng : Fin 256 × G).1.val },
      (Draw.below 256 (by decide) rng : Fin 256 × G).2, rfl, member, ?_, rfl, rfl, rfl, _, _, drawn⟩
    exact ⟨(by decide : ((1, 0) : Int × Int) ∈ headings), (by decide : (0 : Int) ≤ 0),
      (by decide : (0 : Int) ≤ 10), by dsimp only; omega, by dsimp only; omega⟩
  · rw [dif_neg free]
    exact .inl ⟨not_not.mp free, rfl⟩

/-- The number of lineages that a spawn starts. -/
def spawnCount : Option Nat → Nat
  | none => 0
  | some _ => 1

/-- A new lineage brings the energy of a newcomer. -/
theorem advances_spawn (world : World G) :
    Advances (fun spawned => startEnergy * spawnCount spawned) world (spawn.outcome world) := by
  rcases exists_outcome_spawn world with ⟨-, full⟩ | ⟨newcomer, rng, born, known⟩
  · rw [full]
    exact .pure rfl
  · rw [born]
    have drawn := (happens_reseeded world.animals world rng).passes
    obtain ⟨inside, hopen⟩ := mem_freeCells_iff.mp known.free
    have spawns : Happens (.spawn (world.reseeded rng).roster.size) world.animals
        (world.reseeded rng) (world.animals ++ [(world.reseeded rng).roster.size])
          ((world.reseeded rng).settled newcomer) :=
      .spawn known.sound inside hopen known.energy
    exact ⟨_, drawn.append spawns.passes, fun _ hs => by cases hs; rfl⟩

/-- Spawning up to a number brings the energy of as many newcomers as there are. -/
theorem advances_spawnUpTo (h : Occupancy world.animals world) (count : Nat) :
    Advances (fun (spawned : Nat) => startEnergy * spawned) world
      ((spawnUpTo count).outcome world) := by
  induction count generalizing world with
  | zero => exact .pure rfl
  | succ count ih =>
    apply (advances_spawn world).bind h
    intro spawned middle _ hm
    cases spawned with
    | none => exact .pure rfl
    | some id =>
      refine (ih hm).bind hm fun count last _ _ => .pure ?_
      simp only [spawnCount, startEnergy]
      omega

/-- Filling the population up brings the energy of as many newcomers as there are. -/
theorem advances_fillPopulation (h : Occupancy world.animals world) :
    Advances (fun (spawned : Nat) => startEnergy * spawned) world
      (fillPopulation.outcome world) := by
  rw [fillPopulation, Attempt.outcome_bind_of_ok (Attempt.outcome_get world)]
  exact advances_spawnUpTo h _

/-- Filling the population up never fails, and if nobody spawns, nothing happens and there is no
need or no free cell. -/
theorem exists_outcome_fillPopulation (world : World G) :
    ∃ spawned after, fillPopulation.outcome world = (.ok spawned, after) ∧
      (spawned = 0 → after = world ∧
        (world.settings.minPopulation ≤ world.animals.length ∨ world.freeCells = [])) := by
  have upTo (count : Nat) (world : World G) :
      ∃ spawned after, (spawnUpTo count).outcome world = (.ok spawned, after) ∧
        (spawned = 0 → after = world ∧ (count = 0 ∨ world.freeCells = [])) := by
    induction count generalizing world with
    | zero => exact ⟨0, world, rfl, fun _ => ⟨rfl, .inl rfl⟩⟩
    | succ count ih =>
      rw [spawnUpTo]
      rcases exists_outcome_spawn world with ⟨none, full⟩ | ⟨newcomer, rng, born, -⟩
      · rw [Attempt.outcome_bind_of_ok full]
        exact ⟨0, world, rfl, fun _ => ⟨rfl, .inr none⟩⟩
      · obtain ⟨spawned, after, more, -⟩ := ih ((world.reseeded rng).settled newcomer)
        rw [Attempt.outcome_bind_of_ok born, Attempt.outcome_bind_of_ok more]
        exact ⟨spawned + 1, after, rfl, nofun⟩
  obtain ⟨spawned, after, outcome, nobody⟩ :=
    upTo (world.settings.minPopulation - world.animals.length).toNat world
  refine ⟨spawned, after, ?_, fun zero => ?_⟩
  · rw [fillPopulation, Attempt.outcome_bind_of_ok (Attempt.outcome_get world), outcome]
  · obtain ⟨same, enough | full⟩ := nobody zero
    · exact ⟨same, .inl (by omega)⟩
    · exact ⟨same, .inr full⟩

/-- Where there is no need or no free cell, nobody spawns. -/
theorem outcome_fillPopulation_of_enough
    (enough : world.settings.minPopulation ≤ world.animals.length ∨ world.freeCells = []) :
    fillPopulation.outcome world = (.ok 0, world) := by
  rw [fillPopulation, Attempt.outcome_bind_of_ok (Attempt.outcome_get world)]
  generalize hc : (world.settings.minPopulation - world.animals.length).toNat = count
  cases count with
  | zero => rfl
  | succ count =>
    have full : world.freeCells = [] := by
      rcases enough with enough | full
      · omega
      · exact full
    rcases exists_outcome_spawn world with ⟨-, outcome⟩ | ⟨newcomer, _, _, known⟩
    · rw [spawnUpTo, Attempt.outcome_bind_of_ok outcome]
      rfl
    · have free := known.free
      rw [full] at free
      contradiction

/-! ## Life -/

omit [Source G] in
/-- Everybody in the list lives. -/
def Lively (world : World G) : Prop :=
  ∀ id ∈ world.animals, ∃ animal, world.roster[id]? = some animal ∧ 1 ≤ animal.energy

/-- A spawn leaves everybody alive. -/
theorem keeps_lively_spawn :
    Attempt.Keeps (fun world : World G => Occupancy world.animals world ∧ Lively world) spawn := by
  rintro world ⟨h, lively⟩
  refine ⟨(advances_spawn world).occupancy h, ?_⟩
  rcases exists_outcome_spawn world with ⟨-, full⟩ | ⟨newcomer, rng, born, known⟩
  · rw [full]
    exact lively
  · rw [born]
    intro id hid
    rcases List.mem_append.mp hid with old | new
    · obtain ⟨animal, ha, alive⟩ := lively id old
      exact ⟨animal, (h.getElem?_push old newcomer).trans ha, alive⟩
    · rw [List.mem_singleton.mp new]
      refine ⟨newcomer, Array.getElem?_push_size .., ?_⟩
      rw [known.energy]
      decide

/-- Filling the population up leaves everybody alive. -/
theorem keeps_lively_fillPopulation :
    Attempt.Keeps (fun world : World G => Occupancy world.animals world ∧ Lively world)
      fillPopulation := by
  have upTo (count : Nat) :
      Attempt.Keeps (fun world : World G => Occupancy world.animals world ∧ Lively world)
        (spawnUpTo count) := by
    induction count with
    | zero => exact Attempt.keeps_pure _
    | succ count ih =>
      apply keeps_lively_spawn.bind
      intro spawned
      cases spawned with
      | none => exact Attempt.keeps_pure _
      | some id => exact ih.bind fun _ => Attempt.keeps_pure _
  exact Attempt.keeps_get.bind fun _ => upTo _

end Vivarium.World
