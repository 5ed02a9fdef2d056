import Vivarium.Proofs.Program.Alike
import Vivarium.Proofs.World.Resumptions

/-!
# Resumptions in a row

A program of an animal is resumed again and again, and between two resumptions the environment makes
some change of the world. Programs that go alike are resumed alike: each resumption shows the same
and leaves the same world.
-/

namespace Vivarium

/-- Whether held evaluations go alike. -/
inductive Execution.Alike : Option Execution → Option Execution → Prop where
  /-- None is held. -/
  | idle : Alike none none
  /-- Frames that go alike are waiting. -/
  | suspended {waiting waiting' : List Frame} (h : ∀ n, AlikeFor n waiting waiting') :
    Alike (some (.suspended waiting)) (some (.suspended waiting'))
  /-- A fault ended both. -/
  | spent : Alike (some .spent) (some .spent)

/-- Held evaluations that go alike are spoiled alike. -/
theorem Execution.Alike.spoil {held held' : Option Execution} (h : Execution.Alike held held') :
    Execution.Alike (Execution.spoil held) (Execution.spoil held') := by
  cases h with
  | idle => exact .idle
  | suspended => exact .spent
  | spent => exact .spent

/-- Evaluations that agree for any number of actions leave frames waiting that go alike for any
number of actions. -/
theorem agrees_forall {e e' : Except Fault Outcome} (h : ∀ n, Agrees (AlikeFor n) e e') :
    Agrees (fun waiting waiting' => ∀ n, AlikeFor n waiting waiting') e e' := by
  cases h 0 with
  | fault fault => exact .fault fault
  | value v => exact .value v
  | request request _ =>
    refine .request request fun n => ?_
    cases h n with
    | request _ waits => exact waits

/-- Evaluations that go alike come to their next action or their end alike. -/
theorem agrees_advance {t u : Tree} (h : t.Alike u) {held held' : Option Execution}
    (hh : Execution.Alike held held') {senses : Senses} (sound : senses.Sound) :
    Agrees (fun waiting waiting' => ∀ n, AlikeFor n waiting waiting') (advance senses t held)
      (advance senses u held') := by
  apply agrees_forall
  intro n
  cases hh with
  | idle => exact h n senses sound
  | suspended h => exact h (n + 1) senses sound .nil
  | spent => exact .value .nil

/-- What shows of a resumption. -/
structure Showing where
  /-- Whether the program is suspended. -/
  suspended : Bool
  /-- The value of the program, if it came to its end. -/
  value : Option Atom
  /-- The action that was carried out, if it did not. -/
  action : Option Action

/-- What shows of a resumption is all but the evaluation to go on with. -/
def Resumption.showing (resumption : Resumption) : Showing where
  suspended := resumption.held.isSome
  value := resumption.value
  action := resumption.action

namespace World

variable {G : Type} [Source G]

/-- Resume a program of an animal as often as there are changes of the world, and let each change
follow a resumption. A resumption that comes to an end is followed by a new start, and a fault
spoils what was held. Note what each resumption shows and the world that it leaves. -/
def replay (id : Nat) (program : Tree) :
    List (World G → World G) → Option Execution → World G → List (Except Fault Showing × World G)
  | [], _, _ => []
  | change :: changes, held, world =>
    match (resume id program held).outcome world with
    | (.ok resumption, after) =>
      (.ok resumption.showing, after) :: replay id program changes resumption.held (change after)
    | (.error fault, after) =>
      (.error fault, after) :: replay id program changes (Execution.spoil held) (change after)

/-- Whether a change of the world leaves an animal resident. -/
def Settles (id : Nat) (change : World G → World G) : Prop :=
  ∀ world, Resident id world → Resident id (change world)

/-- Programs that go alike are replayed alike. -/
theorem replay_eq_of_alike {t u : Tree} (h : t.Alike u) {id : Nat} {held held' : Option Execution}
    (hh : Execution.Alike held held') {world : World G} (hr : Resident id world)
    {changes : List (World G → World G)} (hc : ∀ change ∈ changes, Settles id change) :
    replay id u changes held' world = replay id t changes held world := by
  induction changes generalizing held held' world with
  | nil => rfl
  | cons change changes ih =>
    rw [List.forall_mem_cons] at hc
    obtain ⟨animal, ha, -⟩ := hr.occupied.known id hr.listed
    have agrees := agrees_advance h hh (hr.sound ha)
    rw [replay, replay]
    generalize first : advance (world.senses animal) t held = e at agrees
    generalize second : advance (world.senses animal) u held' = e' at agrees
    cases agrees with
    | fault fault =>
      rw [outcome_resume_of_error ha first, outcome_resume_of_error ha second]
      dsimp only
      rw [ih hh.spoil (hc.1 world hr) hc.2]
    | value v =>
      rw [outcome_resume_of_value ha first, outcome_resume_of_value ha second]
      dsimp only
      rw [ih .idle (hc.1 world hr) hc.2]
    | request request waits =>
      have stays := hr.perform request
      rw [outcome_resume_of_request ha first, outcome_resume_of_request ha second]
      generalize (perform id request).outcome world = performed at *
      obtain ⟨result, after⟩ := performed
      cases result with
      | error fault =>
        dsimp only
        rw [ih hh.spoil (hc.1 after stays) hc.2]
      | ok _ =>
        dsimp only
        rw [ih (.suspended waits) (hc.1 after stays) hc.2]
        rfl

/-- A small empty world with one animal in it. -/
def lone (rng : Generator) : World Generator :=
  ({ grid := Grid.empty 3 2, rng, settings := {} } : World Generator).settled { cell := ⟨0, 0⟩ }

/-- The animal of the small world is resident. -/
theorem resident_lone (rng : Generator) : Resident 0 (lone rng) := by
  have empty : World.empty 3 2 rng {} = .ok { grid := Grid.empty 3 2, rng, settings := {} } := rfl
  have ground := occupied_of_empty (habitable_default (by decide) (by decide)) empty
  have sound : ({ cell := ⟨0, 0⟩ } : Animal).Sound :=
    ⟨by decide, by decide, by decide, by decide, by decide⟩
  have inside : (Grid.empty 3 2).Inside ⟨0, 0⟩ := ⟨by decide, by decide, by decide, by decide⟩
  exact ⟨ground.place sound inside rfl, List.mem_singleton_self 0⟩

end World

end Vivarium
