import Mathlib.Logic.Relation
import Vivarium.Proofs.World.Chronicle
import Vivarium.Proofs.World.Reachable

/-!
# Alterations

What an operation can do to a world, one alteration at a time, with all extents and settings and
also where a fault stops it. An action alters the ground and the animal that acts, a hit strikes
another one besides, and a fork may bear a child at its end. What all alterations keep is kept in
every reachable world.
-/

namespace Vivarium.World

variable {G : Type} [Source G] {α : Type}

/-- The kinds of alterations, with the animal that each is about. -/
inductive Alteration where
  /-- The landscape or the map of animals changes. -/
  | ground
  /-- An animal changes in something else than its body and its program. -/
  | own (id : Nat)
  /-- An animal is hit. -/
  | strike (victim : Nat)
  /-- A child is born. -/
  | birth
  /-- A lineage is founded. -/
  | founding
  /-- The list of animals is thinned out. -/
  | thinning
  /-- Ticks or deaths are counted. -/
  | count
  /-- Something is reported. -/
  | report

/-- How an alteration leads from one world to another. -/
inductive Alters : Alteration → World G → World G → Prop where
  /-- Nothing but the landscape and the map changes. -/
  | ground {world after : World G} (h : Cleared world after) : Alters .ground world after
  /-- One animal changes and keeps its body and its program. -/
  | own {world : World G} (id : Nat) (change : Animal → Animal)
    (body : ∀ animal, (change animal).body = animal.body)
    (program : ∀ animal, (change animal).program = animal.program) :
    Alters (.own id) world (world.changed id change)
  /-- One animal has the energy of a hit one. -/
  | strike {world : World G} (victim : Nat) :
    Alters (.strike victim) world
      (world.changed victim fun animal => { animal with energy := Animal.hitEnergy })
  /-- The child of an animal that is known is put into the world. -/
  | birth {world : World G} {parent newborn : Animal} (known : parent ∈ world.roster)
    {color : Int} {chances : MutationChances} {inherited : Inheritance} {before after : G}
    (hi : (inherit parent.body parent.program color chances).outcome before =
      (.ok inherited, after))
    (body : newborn.body = inherited.body) (program : newborn.program = inherited.program) :
    Alters .birth world { world.settled newborn with births := world.births + 1 }
  /-- The first animal of a lineage is put into the world. -/
  | founding {world : World G} {newcomer : Animal} {before after : G}
    (hb : (generateBody generationAttempts).outcome before = (.ok newcomer.body, after))
    (program : newcomer.program = .herbivore) : Alters .founding world (world.settled newcomer)
  /-- Some animals stay in the list. -/
  | thinning {world : World G} {survivors : List Nat} (h : survivors.Sublist world.animals) :
    Alters .thinning world { world with animals := survivors }
  /-- Nothing but the ticks and the deaths changes. -/
  | count {world : World G} (tick deaths : Nat) : Alters .count world { world with tick, deaths }
  /-- Nothing but the journal changes. -/
  | report {world : World G} (journal : Array Entry) : Alters .report world { world with journal }

/-- Whether alterations of certain kinds lead from one world to another. -/
def Altered (allowed : Alteration → Prop) : World G → World G → Prop :=
  Relation.ReflTransGen fun world after => ∃ alteration, allowed alteration ∧
    Alters alteration world after

/-- The alterations that an animal can make by an action, a birth excepted. -/
def ByAction (id : Nat) (action : Option Action) : Alteration → Prop
  | .ground => True
  | .own other => other = id
  | .strike _ => action = some .hit
  | _ => False

/-- The alterations that leave all animals, the list and the counters alone. -/
def OnGround (alteration : Alteration) : Prop := alteration = .ground

/-- All kinds of alterations. -/
def AnyKind : Alteration → Prop := fun _ => True

variable {allowed more : Alteration → Prop} {start world after : World G} {id : Nat}

/-- Nothing needs to be altered. -/
theorem Altered.refl (world : World G) : Altered allowed world world :=
  Relation.ReflTransGen.refl

/-- Further alterations may follow. -/
theorem Altered.trans {middle : World G} (first : Altered allowed world middle)
    (second : Altered allowed middle after) : Altered allowed world after :=
  Relation.ReflTransGen.trans first second

/-- One alteration more may follow. -/
theorem Altered.tail {alteration : Alteration} (h : Altered allowed start world)
    (ok : allowed alteration) (ha : Alters alteration world after) : Altered allowed start after :=
  Relation.ReflTransGen.tail h ⟨alteration, ok, ha⟩

/-- More kinds of alterations may be allowed. -/
theorem Altered.mono (h : Altered allowed world after)
    (sub : ∀ alteration, allowed alteration → more alteration) : Altered more world after :=
  Relation.ReflTransGen.mono (fun _ _ ⟨alteration, ok, ha⟩ => ⟨alteration, sub alteration ok, ha⟩)
    _ _ h

/-- A property that every alteration keeps is kept along alterations. -/
theorem Altered.keeps {inv : World G → Prop} (h : Altered allowed world after)
    (each : ∀ {alteration before next}, allowed alteration → Alters alteration before next →
      inv before → inv next) (hi : inv world) : inv after := by
  induction h with
  | refl => exact hi
  | tail _ last ih =>
    obtain ⟨alteration, ok, ha⟩ := last
    exact each ok ha ih

/-! ## Reading -/

section

variable {inv : World G → Prop}

omit [Source G] in
/-- Looking up an animal keeps everything. -/
theorem keeps_animal (id : Nat) : Attempt.Keeps inv (animal id : Sim G Animal) := by
  refine Attempt.keeps_get.bind fun world => ?_
  split
  · exact Attempt.keeps_pure _
  · exact Attempt.keeps_throw _

omit [Source G] in
/-- Reading the food of a cell keeps everything. -/
theorem keeps_food (cell : Cell) : Attempt.Keeps inv (food cell : Sim G Int) :=
  Attempt.keeps_get.bind fun _ => Attempt.keeps_ofExcept _

omit [Source G] in
/-- Looking ahead keeps everything. -/
theorem keeps_ahead (id : Nat) : Attempt.Keeps inv (ahead id : Sim G Cell) :=
  (keeps_animal id).bind fun _ => Attempt.keeps_get.bind fun _ => Attempt.keeps_ofExcept _

omit [Source G] in
/-- Looking back keeps everything. -/
theorem keeps_behind (id : Nat) : Attempt.Keeps inv (behind id : Sim G Cell) :=
  (keeps_animal id).bind fun _ => Attempt.keeps_get.bind fun _ => Attempt.keeps_ofExcept _

omit [Source G] in
/-- Looking for a free cell keeps everything. -/
theorem keeps_isFree (cell : Cell) : Attempt.Keeps inv (isFree cell : Sim G Bool) :=
  (keeps_food cell).bind fun _ => Attempt.keeps_get.bind fun _ => Attempt.keeps_pure _

end

/-! ## Parts of operations -/

section

variable (ground : allowed .ground)
include ground

/-- A change of the map is an alteration. -/
theorem keeps_altered_modify (change : World G → World G)
    (same : ∀ world, Cleared world (change world) := by exact fun _ => ⟨_, _, rfl⟩) :
    Attempt.Keeps (Altered allowed start) (modify change : Sim G PUnit) :=
  fun world h => h.tail ground (.ground (same world))

/-- What happens to the landscape is an alteration. -/
theorem keeps_altered_onLandscape (attempt : Attempt (Landscape G) α) :
    Attempt.Keeps (Altered allowed start) (onLandscape attempt) := by
  intro world h
  rw [onLandscape, Attempt.outcome_onPart]
  exact h.tail ground (.ground ⟨_, _, rfl⟩)

/-- Adding food alters the ground. -/
theorem keeps_altered_addFood (cell : Cell) (amount : Int) :
    Attempt.Keeps (Altered allowed start) (addFood cell amount : Sim G Int) := by
  refine (keeps_food cell).bind fun present => ?_
  split
  · exact Attempt.keeps_pure _
  · refine Attempt.keeps_get.bind fun _ => ?_
    exact (keeps_altered_onLandscape ground _).bind fun _ => Attempt.keeps_pure _

/-- Vacating a cell alters the map. -/
theorem keeps_altered_vacate (cell : Cell) :
    Attempt.Keeps (Altered allowed start) (vacate cell : Sim G Unit) := by
  refine Attempt.keeps_get.bind fun world => ?_
  split
  · exact keeps_altered_modify ground _
  · exact Attempt.keeps_throw _

/-- A random blob alters the ground. -/
theorem keeps_altered_addRandomBlob :
    Attempt.Keeps (Altered allowed start) (addRandomBlob : Sim G Int) :=
  Attempt.keeps_get.bind fun _ => (keeps_altered_onLandscape ground _).bind fun _ =>
    keeps_altered_onLandscape ground _

end

/-- A report is an alteration. -/
theorem keeps_altered_report (reported : allowed .report) (level : Level) (text : String) :
    Attempt.Keeps (Altered allowed start) (report level text : Sim G Unit) :=
  fun _ h => h.tail reported (.report _)

/-- A change of an animal that leaves its body and its program is an alteration. -/
theorem keeps_altered_changeAnimal (own : allowed (.own id)) (change : Animal → Animal)
    (body : ∀ animal, (change animal).body = animal.body := by exact fun _ => rfl)
    (program : ∀ animal, (change animal).program = animal.program := by exact fun _ => rfl) :
    Attempt.Keeps (Altered allowed start) (changeAnimal id change : Sim G Unit) :=
  fun _ h => h.tail own (.own id change body program)

/-! ## What animals do -/

section

variable (ground : allowed .ground) (own : allowed (.own id))
include ground own

/-- A step onto a cell alters the animal and the map. -/
theorem keeps_altered_stepTo (cell : Cell) :
    Attempt.Keeps (Altered allowed start) (stepTo id cell : Sim G Unit) := by
  refine (keeps_isFree cell).bind fun free => ?_
  split
  · have moves : Attempt.Keeps (Altered allowed start) (moveAnimal id cell : Sim G Unit) := by
      refine (keeps_animal id).bind fun _ => ?_
      refine (keeps_altered_vacate ground _).bind fun _ => ?_
      refine (keeps_altered_changeAnimal own _).bind fun _ => ?_
      exact keeps_altered_modify ground _
    exact moves.bind fun _ => keeps_altered_changeAnimal own _
  · exact Attempt.keeps_pure _

/-- A meal alters the animal and the ground. -/
theorem keeps_altered_eat : Attempt.Keeps (Altered allowed start) (eat id : Sim G Unit) := by
  refine (keeps_animal id).bind fun _ => ?_
  refine (keeps_food _).bind fun _ => ?_
  refine (keeps_altered_changeAnimal own _).bind fun _ => ?_
  refine (Attempt.keeps_get.bind fun _ => keeps_altered_onLandscape ground _).bind fun _ => ?_
  exact keeps_altered_changeAnimal own _

/-- A hit alters the animal, the ground and the one that is hit. -/
theorem keeps_altered_hit (strike : ∀ victim, allowed (.strike victim)) :
    Attempt.Keeps (Altered allowed start) (hit id : Sim G Unit) := by
  refine (keeps_ahead id).bind fun cell => ?_
  refine (Attempt.keeps_get.bind fun _ => Attempt.keeps_pure _).bind fun found => ?_
  split
  · exact Attempt.keeps_pure _
  · rename_i victim
    have falls : Attempt.Keeps (Altered allowed start) (changeAnimal victim
        fun animal => { animal with energy := Animal.hitEnergy } : Sim G Unit) :=
      fun _ h => h.tail (strike victim) (.strike victim)
    have strikes := falls.bind fun _ =>
      keeps_altered_changeAnimal own fun animal => { animal with wait := Animal.waitHit }
    refine (keeps_animal victim).bind fun _ => ?_
    dsimp only
    split
    · exact (keeps_altered_addFood ground _ _).bind fun _ => strikes
    · exact strikes

end

/-- What an action comes to: a fault or no child after some alterations, or a child that is born
after some. -/
inductive Acted (allowed : Alteration → Prop) (world : World G) :
    Except Fault (Option Nat) × World G → Prop where
  /-- No child is born. -/
  | barren {result : Except Fault (Option Nat)} {after : World G} (h : Altered allowed world after)
    (nobody : ∀ child, result = .ok child → child = none) : Acted allowed world (result, after)
  /-- A child is born, with the next number. -/
  | bore {middle after : World G} (h : Altered allowed world middle)
    (birth : Alters .birth middle after) :
    Acted allowed world (.ok (some middle.roster.size), after)

namespace Acted

/-- An action may go on after some alterations. -/
theorem trans {middle : World G} {result : Except Fault (Option Nat) × World G}
    (first : Altered allowed world middle) (h : Acted allowed middle result) :
    Acted allowed world result := by
  cases h with
  | barren h nobody => exact .barren (first.trans h) nobody
  | bore h birth => exact .bore (first.trans h) birth

/-- An action may go on after the world was read. -/
theorem bind_of_reads {first : Sim G α} {next : α → Sim G (Option Nat)}
    (reads : Attempt.Keeps (· = world) first)
    (h : ∀ a, Acted allowed world ((next a).outcome world)) :
    Acted allowed world ((first >>= next).outcome world) := by
  have left := reads world rfl
  rw [Attempt.outcome_bind]
  rcases hf : first.outcome world with ⟨result, final⟩
  rw [hf] at left
  obtain rfl : final = world := left
  cases result with
  | error fault => exact .barren (.refl _) nofun
  | ok a => exact h a

/-- An action leads along alterations. -/
theorem altered {result : Except Fault (Option Nat) × World G} (h : Acted allowed world result)
    (sub : ∀ alteration, allowed alteration → more alteration) (birth : more .birth) :
    Altered more world result.2 := by
  cases h with
  | barren h _ => exact h.mono sub
  | bore h born => exact (h.mono sub).tail birth born

end Acted

/-- A fork alters the animal and the ground before a child is born. -/
theorem acted_fork (ground : allowed .ground) (own : allowed (.own id)) (asked : Option Number)
    (world : World G) : Acted allowed world ((fork id asked).outcome world) := by
  refine .bind_of_reads (Attempt.keeps_ofExcept _) fun percentage => ?_
  have tires : Altered allowed world (world.changed id Animal.tired) :=
    (Altered.refl world).tail own (.own id Animal.tired (fun _ => rfl) fun _ => rfl)
  rw [Attempt.outcome_bind_of_ok (outcome_changeAnimal _ _ _)]
  refine .trans tires ?_
  change Acted allowed _ (Attempt.outcome _ (world.changed id Animal.tired))
  generalize world.changed id Animal.tired = tired
  refine .bind_of_reads (keeps_ahead id) fun cell => .bind_of_reads (keeps_isFree cell)
    fun free => ?_
  split
  · cases ha : tired.roster[id]? with
    | none =>
      rw [animal, bind_assoc, Attempt.outcome_bind_of_ok (Attempt.outcome_get tired), ha]
      exact .barren (.refl _) fun child hc => by cases hc
    | some parent =>
      rw [outcome_animal_bind ha, Attempt.outcome_bind_of_ok (Attempt.outcome_get tired),
        Attempt.outcome_bind, outcome_draw]
      rcases hi : (inherit parent.body parent.program parent.color
        tired.settings.mutation).outcome tired.rng with ⟨result, rng⟩
      have draws : Altered allowed tired (tired.reseeded rng) :=
        (Altered.refl tired).tail ground (.ground ⟨_, _, rfl⟩)
      cases result with
      | error fault => exact .barren draws fun child hc => by cases hc
      | ok inherited =>
        refine .trans draws (.bind_of_reads (Attempt.keeps_ofExcept _) fun parts => ?_)
        have pays : Altered allowed (tired.reseeded rng) ((tired.reseeded rng).changed id
            fun animal => { animal with energy := parts.1 }) :=
          (Altered.refl _).tail own (.own id _ (fun _ => rfl) fun _ => rfl)
        have known : { parent with energy := parts.1 } ∈
            ((tired.reseeded rng).changed id fun animal =>
              { animal with energy := parts.1 }).roster := by
          refine Array.mem_of_getElem? (i := id) ?_
          rw [roster_changed, if_pos rfl]
          exact congrArg (Option.map _) ha
        exact .bore pays (.birth known hi rfl rfl)
  · exact .barren (.refl _) fun child hc => (Except.ok.inj hc).symm

/-- Whatever a program asks for, carrying it out leads along the alterations of the action. -/
theorem acted_enact (id : Nat) (request : Request) (world : World G) :
    Acted (ByAction id (some request.action)) world ((enact id request).outcome world) := by
  have plain {action : Sim G Unit}
      (h : Attempt.Keeps (Altered (ByAction id (some request.action)) world) action) :
      Acted (ByAction id (some request.action)) world
        ((do action; return none : Sim G (Option Nat)).outcome world) := by
    have altered := h world (.refl world)
    rw [Attempt.outcome_bind]
    generalize action.outcome world = acted at *
    obtain ⟨result, after⟩ := acted
    cases result with
    | error fault => exact .barren altered nofun
    | ok _ => exact .barren altered fun child hc => (Except.ok.inj hc).symm
  have ground (action : Action) : ByAction id (some action) .ground := trivial
  have own (action : Action) : ByAction id (some action) (.own id) := rfl
  match request with
  | .act .move =>
    exact plain ((keeps_ahead id).bind fun _ => keeps_altered_stepTo (ground .move) (own .move) _)
  | .act .moveBack =>
    exact plain ((keeps_behind id).bind fun _ =>
      keeps_altered_stepTo (ground .moveBack) (own .moveBack) _)
  | .act .turnLeft => exact plain (keeps_altered_changeAnimal (own .turnLeft) Animal.turnLeft)
  | .act .turnRight => exact plain (keeps_altered_changeAnimal (own .turnRight) Animal.turnRight)
  | .act .turnRandom =>
    refine plain ((keeps_altered_onLandscape (ground .turnRandom) _).bind fun left => ?_)
    split
    · exact keeps_altered_changeAnimal (own .turnRandom) Animal.turnLeft
    · exact keeps_altered_changeAnimal (own .turnRandom) Animal.turnRight
  | .act .eat => exact plain (keeps_altered_eat (ground .eat) (own .eat))
  | .act .hit => exact plain (keeps_altered_hit (ground .hit) (own .hit) fun _ => rfl)
  | .act .fork => exact acted_fork (ground .fork) (own .fork) none world
  | .fork percentage => exact acted_fork (ground .fork) (own .fork) percentage world

/-! ## Ticks -/

/-- Whatever a program asks for, carrying it out leads along alterations. -/
theorem keeps_altered_perform (id : Nat) (request : Request) :
    Attempt.Keeps (Altered AnyKind start) (perform id request : Sim G Unit) := by
  have carries : Attempt.Keeps (Altered AnyKind start)
      (enact id request : Sim G (Option Nat)) :=
    fun world h => h.trans ((acted_enact id request world).altered (fun _ _ => trivial) trivial)
  rw [perform_eq]
  exact carries.bind fun _ => Attempt.keeps_pure _

/-- A turn leads along alterations. -/
theorem keeps_altered_turn (id : Nat) :
    Attempt.Keeps (Altered AnyKind start) (turn id : Sim G Unit) := by
  refine (keeps_animal id).bind fun animal => ?_
  split
  · exact keeps_altered_changeAnimal trivial _
  · refine Attempt.Keeps.tryCatch ?_ fun fault => ?_
    · have resumes : Attempt.Keeps (Altered AnyKind start)
          (resume id animal.program animal.execution : Sim G Resumption) := by
        refine (keeps_animal id).bind fun _ => Attempt.keeps_get.bind fun _ => ?_
        refine (Attempt.keeps_ofExcept _).bind fun outcome => ?_
        cases outcome with
        | value v => exact Attempt.keeps_pure _
        | request request waiting =>
          exact (keeps_altered_perform id request).bind fun _ => Attempt.keeps_pure _
      exact resumes.bind fun _ => keeps_altered_changeAnimal trivial _
    · exact (keeps_altered_changeAnimal trivial _).bind fun _ => Attempt.keeps_throw _

/-- Turns lead along alterations. -/
theorem keeps_altered_turns (ids : List Nat) :
    Attempt.Keeps (Altered AnyKind start) (turns ids : Sim G Unit) := by
  induction ids with
  | nil => exact Attempt.keeps_pure _
  | cons id ids ih =>
    have decays : Attempt.Keeps (Altered AnyKind start) (do
        changeAnimal id fun animal => { animal with energy := animal.energy - Animal.energyDecay }
        turns ids : Sim G Unit) :=
      (keeps_altered_changeAnimal trivial _).bind fun _ => ih
    refine (keeps_animal id).bind fun animal => ?_
    dsimp only
    split
    · exact (keeps_altered_turn id).bind fun _ => decays
    · exact decays

/-- Finding out whether an animal goes alters the source of random numbers at most. -/
theorem keeps_altered_isDoomed (ground : allowed .ground) (id : Nat) :
    Attempt.Keeps (Altered allowed start) (isDoomed id : Sim G Bool) := by
  refine (keeps_animal id).bind fun animal => ?_
  split
  · exact Attempt.keeps_pure _
  · exact Attempt.keeps_get.bind fun _ => keeps_altered_onLandscape ground _

/-- Sifting animals alters the ground and the map. -/
theorem keeps_altered_sift (ground : allowed .ground) (ids : List Nat) :
    Attempt.Keeps (Altered allowed start) (sift ids : Sim G (List Nat × List Nat)) := by
  induction ids with
  | nil => exact Attempt.keeps_pure _
  | cons id ids ih =>
    refine (keeps_altered_isDoomed ground id).bind fun doomed => ?_
    split
    · refine (keeps_animal id).bind fun animal => ?_
      refine (keeps_altered_addFood ground _ _).bind fun _ => ?_
      refine (keeps_altered_vacate ground _).bind fun _ => ?_
      exact ih.bind fun _ => Attempt.keeps_pure _
    · exact ih.bind fun _ => Attempt.keeps_pure _

/-- The ground may be altered alone. -/
theorem onGround : OnGround .ground := rfl

/-- Alterations of the ground and the map clear the world. -/
theorem Altered.cleared (h : Altered OnGround world after) : Cleared world after := by
  refine h.keeps (fun ok alters before => ?_) ⟨_, _, rfl⟩
  subst ok
  cases alters with
  | ground clears => exact before.trans clears

/-- How animals are sifted into survivors, who live, and others. -/
inductive Sifted (roster : Array Animal) : List Nat → List Nat → List Nat → Prop where
  /-- There are none. -/
  | nil : Sifted roster [] [] []
  /-- An animal that lives stays. -/
  | stay {id : Nat} {animal : Animal} {ids survivors removed : List Nat}
    (ha : roster[id]? = some animal) (alive : 1 ≤ animal.energy)
    (rest : Sifted roster ids survivors removed) :
    Sifted roster (id :: ids) (id :: survivors) removed
  /-- An animal goes. -/
  | go {id : Nat} {ids survivors removed : List Nat} (rest : Sifted roster ids survivors removed) :
    Sifted roster (id :: ids) survivors (id :: removed)

/-- Who survives keeps the order. -/
theorem Sifted.sublist {roster : Array Animal} {ids survivors removed : List Nat}
    (h : Sifted roster ids survivors removed) : survivors.Sublist ids := by
  induction h with
  | nil => exact .slnil
  | stay _ _ _ ih => exact ih.cons_cons _
  | go _ ih => exact ih.cons _

/-- Who survives lives. -/
theorem Sifted.alive {roster : Array Animal} {ids survivors removed : List Nat}
    (h : Sifted roster ids survivors removed) (hid : id ∈ survivors) :
    ∃ animal, roster[id]? = some animal ∧ 1 ≤ animal.energy := by
  induction h with
  | nil => contradiction
  | @stay _ animal _ _ _ ha alive _ ih =>
    rcases List.mem_cons.mp hid with rfl | later
    · exact ⟨animal, ha, alive⟩
    · exact ih later
  | go _ ih => exact ih hid

/-- What clears the world and comes to a value leaves the roster. -/
theorem roster_of_keeps {first : Sim G α} {a : α}
    (keeps : Attempt.Keeps (Altered OnGround world) first)
    (h : first.outcome world = (.ok a, after)) : after.roster = world.roster := by
  have altered := keeps world (.refl world)
  rw [h] at altered
  obtain ⟨_, _, rfl⟩ := altered.cleared
  rfl

/-- Sifting comes to survivors and removed animals. -/
theorem sifted_of_sift {ids survivors removed : List Nat}
    (h : (sift ids).outcome world = (.ok (survivors, removed), after)) :
    Sifted world.roster ids survivors removed := by
  induction ids generalizing world survivors removed with
  | nil =>
    cases h
    exact .nil
  | cons id ids ih =>
    obtain ⟨doomed, drawn, hd, h⟩ := Attempt.outcome_bind_eq_ok_iff.mp h
    have same := roster_of_keeps (keeps_altered_isDoomed onGround id) hd
    rw [← same]
    cases doomed with
    | true =>
      rw [if_pos rfl] at h
      obtain ⟨corpse, looked, hl, h⟩ := Attempt.outcome_bind_eq_ok_iff.mp h
      obtain ⟨_, fed, hf, h⟩ := Attempt.outcome_bind_eq_ok_iff.mp h
      obtain ⟨_, vacated, hv, h⟩ := Attempt.outcome_bind_eq_ok_iff.mp h
      obtain ⟨⟨survivors, others⟩, last, hs, h⟩ := Attempt.outcome_bind_eq_ok_iff.mp h
      cases h
      have rest := ih hs
      rw [roster_of_keeps (keeps_altered_vacate onGround _) hv,
        roster_of_keeps (keeps_altered_addFood onGround _ _) hf,
        roster_of_keeps (keeps_animal id) hl] at rest
      exact .go rest
    | false =>
      rw [if_neg Bool.false_ne_true] at h
      obtain ⟨⟨others, removed⟩, last, hs, h⟩ := Attempt.outcome_bind_eq_ok_iff.mp h
      cases h
      cases ha : world.roster[id]? with
      | none =>
        rw [isDoomed, animal, bind_assoc,
          Attempt.outcome_bind_of_ok (Attempt.outcome_get world), ha] at hd
        cases hd
      | some animal =>
        obtain ⟨doomed, rng, outcome, lives⟩ := exists_outcome_isDoomed ha
        rw [hd, Prod.mk.injEq, Except.ok.injEq] at outcome
        exact .stay (same ▸ ha) (lives outcome.1.symm) (ih hs)

/-- Weeding out alters the ground and thins the list. -/
theorem keeps_altered_weedOut :
    Attempt.Keeps (Altered AnyKind start) (weedOut : Sim G (List Nat)) := by
  intro world h
  rw [weedOut, Attempt.outcome_bind_of_ok (Attempt.outcome_get world), Attempt.outcome_bind]
  have clears := (keeps_altered_sift onGround world.animals world (.refl world)).cleared
  rcases hs : (sift world.animals).outcome world with ⟨result, middle⟩
  rw [hs] at clears
  have sifted := h.tail trivial (.ground clears)
  cases result with
  | error fault => exact sifted
  | ok sorted =>
    obtain ⟨_, _, rfl⟩ := clears
    exact sifted.tail trivial (.thinning (sifted_of_sift hs).sublist)

/-- A spawn founds a lineage, or nothing happens. -/
theorem keeps_altered_spawn (ground : allowed .ground) (founding : allowed .founding) :
    Attempt.Keeps (Altered allowed start) (spawn : Sim G (Option Nat)) := by
  intro world h
  rcases exists_outcome_spawn world with ⟨-, full⟩ | ⟨newcomer, rng, born, known⟩
  · rw [full]
    exact h
  · obtain ⟨before, after, hb⟩ := known.body
    rw [born]
    exact (h.tail ground (.ground ⟨_, _, rfl⟩)).tail founding (.founding hb known.program)

/-- Spawning up to a number founds lineages. -/
theorem keeps_altered_spawnUpTo (count : Nat) :
    Attempt.Keeps (Altered AnyKind start) (spawnUpTo count : Sim G Nat) := by
  induction count with
  | zero => exact Attempt.keeps_pure _
  | succ count ih =>
    apply (keeps_altered_spawn trivial trivial).bind
    intro spawned
    cases spawned with
    | none => exact Attempt.keeps_pure _
    | some _ => exact ih.bind fun _ => Attempt.keeps_pure _

/-- A tick leads along alterations. -/
theorem keeps_altered_step : Attempt.Keeps (Altered AnyKind start) (step : Sim G Unit) := by
  have counts (tick deaths : World G → Nat) :
      Attempt.Keeps (Altered AnyKind start) (modify fun world =>
        { world with tick := tick world, deaths := deaths world } : Sim G PUnit) :=
    fun world h => h.tail trivial (.count _ _)
  have begins : Attempt.Keeps (Altered AnyKind start) (beginTick : Sim G (List Nat × Int)) := by
    refine (counts (·.tick + 1) (·.deaths)).bind fun _ => Attempt.keeps_get.bind fun world => ?_
    refine (keeps_altered_onLandscape trivial _).bind fun falls => ?_
    split
    · exact (keeps_altered_addRandomBlob trivial).bind fun _ => Attempt.keeps_pure _
    · exact Attempt.keeps_pure _
  have removes : Attempt.Keeps (Altered AnyKind start) (removeDead : Sim G Nat) := by
    rw [removeDead_eq]
    exact keeps_altered_weedOut.bind fun _ => Attempt.keeps_pure _
  have reports (removed spawned : Nat) :
      Attempt.Keeps (Altered AnyKind start) (reportTick removed spawned : Sim G Unit) := by
    rw [reportTick]
    split
    · exact Attempt.keeps_get.bind fun _ => keeps_altered_report trivial _ _
    · exact Attempt.keeps_pure _
  have ends : Attempt.Keeps (Altered AnyKind start) (endTick : Sim G (Nat × Nat)) := by
    refine removes.bind fun removed => (counts (·.tick) (·.deaths + removed)).bind fun _ => ?_
    refine (Attempt.keeps_get.bind fun _ => keeps_altered_spawnUpTo _).bind fun spawned => ?_
    exact (reports removed spawned).bind fun _ => Attempt.keeps_pure _
  have passes : Attempt.Keeps (Altered AnyKind start) (ledger : Sim G Ledger) :=
    begins.bind fun begun => (keeps_altered_turns begun.1).bind fun _ =>
      ends.bind fun _ => Attempt.keeps_pure _
  rw [step_eq]
  exact passes.bind fun _ => Attempt.keeps_pure _

/-! ## Reachable worlds -/

/-- The alterations by which a world is furnished. -/
def Furnishing : Alteration → Prop
  | .ground | .founding | .report => True
  | _ => False

/-- Furnishing a world alters the ground, founds lineages and reports. -/
theorem keeps_altered_furnish (ground : allowed .ground) (founding : allowed .founding)
    (reported : allowed .report) (seed : Option Int) (population : Int) :
    Attempt.Keeps (Altered allowed start) (furnish seed population : Sim G Unit) := by
  have blobs (count : Nat) :
      Attempt.Keeps (Altered allowed start) (addRandomBlobs count : Sim G Unit) := by
    induction count with
    | zero => exact Attempt.keeps_pure _
    | succ count ih => exact (keeps_altered_addRandomBlob ground).bind fun _ => ih
  have populates (count : Nat) :
      Attempt.Keeps (Altered allowed start) (populate count : Sim G Unit) := by
    induction count with
    | zero => exact Attempt.keeps_pure _
    | succ count ih =>
      apply (keeps_altered_spawn ground founding).bind
      intro spawned
      cases spawned with
      | none => exact Attempt.keeps_get.bind fun _ => keeps_altered_report reported _ _
      | some _ => exact ih
  refine (keeps_altered_onLandscape ground _).bind fun obstacles =>
    Attempt.keeps_get.bind fun _ => ?_
  refine (blobs _).bind fun _ => (populates _).bind fun _ => ?_
  exact Attempt.keeps_get.bind fun _ => keeps_altered_report reported _ _

/-- A created world comes from an empty one by furnishing. -/
theorem exists_altered_of_create {width height : Int} {seed : Option Int} {rng : G}
    {population : Int} {settings : Settings}
    (hc : create width height seed rng population settings = .ok world) :
    ∃ start : World G, World.empty width height rng settings = .ok start ∧
      Altered Furnishing start world := by
  obtain ⟨start, he, hf⟩ := create_eq_ok_iff.mp hc
  have furnished : Altered Furnishing start _ :=
    keeps_altered_furnish trivial trivial trivial seed population start (.refl start)
  rw [hf] at furnished
  exact ⟨start, he, furnished⟩

/-- Every reachable world comes from an empty one by alterations. -/
theorem exists_altered_of_reachable {admits : Int → Int → Settings → Prop}
    (hr : Reachable admits world) :
    ∃ width height rng settings, ∃ start : World G,
      World.empty width height rng settings = .ok start ∧ Altered AnyKind start world := by
  induction hr with
  | created _ hc =>
    obtain ⟨start, he, furnished⟩ := exists_altered_of_create hc
    exact ⟨_, _, _, _, start, he, furnished.mono fun _ _ => trivial⟩
  | empty _ he => exact ⟨_, _, _, _, _, he, .refl _⟩
  | spawned _ ih =>
    obtain ⟨_, _, _, _, start, he, altered⟩ := ih
    exact ⟨_, _, _, _, start, he, keeps_altered_spawn trivial trivial _ altered⟩
  | fed _ ih =>
    obtain ⟨_, _, _, _, start, he, altered⟩ := ih
    exact ⟨_, _, _, _, start, he, keeps_altered_addRandomBlob trivial _ altered⟩
  | stepped _ ih =>
    obtain ⟨_, _, _, _, start, he, altered⟩ := ih
    exact ⟨_, _, _, _, start, he, keeps_altered_step _ altered⟩

end Vivarium.World
