import Vivarium.Proofs.Program.Observation
import Vivarium.Proofs.World.State
import Vivarium.World.Action

/-!
# The recursive meaning of programs

A program can be carried out by a plain recursion over its tree, with nothing held between two
actions: sensors read the world as it is, and every action is followed by what the environment does
to the world. Readings and actions are noted in their order. What a list of waiting frames has left
to do is a part of that recursion, and what an observed evaluation comes to, once finished, is the
recursion from there.
-/

namespace Vivarium

/-- A world and what was noted of an animal in it. -/
structure Scene (G : Type) where
  /-- The world. -/
  world : World G
  /-- What was noted so far. -/
  notes : List Note

/-- A computation on a scene that may stop with a fault. -/
abbrev Play (G : Type) := Attempt (Scene G)

namespace World

variable {G : Type} {α : Type}

/-- Read a sensor of an animal. -/
def sense (id : Nat) : Sensor → Sim G Int
  | .foodHere => foodHere id
  | .foodAhead => foodAhead id
  | .ownEnergy => return (← animal id).energy

/-- Let something happen in the world of a scene. -/
def onWorld (attempt : Sim G α) : Play G α :=
  attempt.onPart fun scene => (scene.world, fun world => { scene with world })

/-- Write a note. -/
def note (entry : Note) : Play G Unit :=
  modify fun scene => { scene with notes := scene.notes ++ [entry] }

/-- Read a sensor of an animal and note the reading. -/
def look (id : Nat) (sensor : Sensor) : Play G Atom := do
  let value ← onWorld (sense id sensor)
  note (.read sensor value)
  return .number (.int value)

/-- Run an evaluation that is observed in a scene. -/
def watch (observed : Observed α) : Play G α :=
  observed.onPart fun scene => (scene.notes, fun notes => { scene with notes })

/-- What the environment does to the world after an action, by what was noted so far. -/
abbrev Environment (G : Type) := List Note → World G → World G

/-- Let rounds of a body be carried out. -/
def runRounds (body : Play G Atom) : Nat → Play G Atom
  | 0 => return .nil
  | n + 1 => do
    let _ ← body
    runRounds body n

/-- Let rounds of a body be carried out by an evaluated count. -/
def runLoop (body : Play G Atom) (count : Atom) : Play G Atom := do
  runRounds body (← count.operand.truncate).toNat

/-- Combine a value with that of a right operand. -/
def runRight (right : Play G Atom) (combination : Combination) (left : Atom) : Play G Atom := do
  let b ← right
  return ← combination.apply left b

variable [Source G] (id : Nat) (env : Environment G)

/-- Carry out a request of an animal, note it, and let the environment go on. The value is nil. -/
def carryOut (request : Request) : Play G Atom := do
  onWorld (perform id request)
  note (.act request)
  modify fun scene => { scene with world := env scene.notes scene.world }
  return .nil

mutual

/-- Carry out a program by recursion over its tree. -/
def run : Tree → Play G Atom
  | .atom a => return a.evaluated
  | .form [] => return .bool false
  | .form (head :: args) => do
    match ← head.lookup with
    | none => return .bool false
    | some (.sensor sensor) => look id sensor
    | some (.arithmetic operator) =>
      runRight (runArgument args 1) (.arithmetic operator) (← runArgument args 0)
    | some (.comparison operator) =>
      runRight (runArgument args 1) (.comparison operator) (← runArgument args 0)
    | some (.control .branch) =>
      if (← runArgument args 0).isTrue then runArgument args 1 else runArgument args 2
    | some (.control .sequence) => runSequence args .nil
    | some (.control .loop) => runLoop (runArgument args 1) (← runArgument args 0)
    | some (.action .fork) => carryOut id env (.fork (← runArgument args 0).number?)
    | some (.action action) => carryOut id env (.act action)

/-- Carry out the argument at a position. A missing argument is false. -/
def runArgument : List Tree → Nat → Play G Atom
  | [], _ => return .bool false
  | t :: _, 0 => run t
  | _ :: ts, i + 1 => runArgument ts i

/-- Carry out trees in order. The value is that of the last, or `last` if there are none. -/
def runSequence : List Tree → Atom → Play G Atom
  | [], last => return last
  | t :: ts, _ => do runSequence ts (← run t)

end

/-- What a frame has left to do once it receives its value. -/
def follow (frame : Frame) (v : Atom) : Play G Atom :=
  match frame with
  | .leftOperand combination second => runRight (run id env second) combination v
  | .rightOperand combination first => return ← combination.apply first v
  | .condition yes no => if v.isTrue then run id env yes else run id env no
  | .sequence rest => runSequence id env rest v
  | .count body => runLoop (run id env body) v
  | .rounds body remaining => runRounds (run id env body) remaining
  | .percentage => carryOut id env (.fork v.number?)

/-- What waiting frames have left to do, the innermost first. -/
def followAll : List Frame → Atom → Play G Atom
  | [], v => return v
  | frame :: frames, v => do followAll frames (← follow id env frame v)

/-- What is left to do for what an evaluation came to. -/
def finish : Outcome → Play G Atom
  | .value v => return v
  | .request request waiting => do followAll id env waiting (← carryOut id env request)

/-- What a held evaluation has left to do, or a new one of the program if none is held. -/
def remaining (program : Tree) : Option Execution → Play G Atom
  | none => run id env program
  | some (.suspended waiting) => followAll id env waiting .nil
  | some .spent => return .nil

variable {id env}

/-- What frames have left to do is done from the inside out. -/
theorem followAll_append (inner outer : List Frame) (v : Atom) :
    followAll id env (inner ++ outer) v =
      (do followAll id env outer (← followAll id env inner v)) := by
  induction inner generalizing v with
  | nil => rw [List.nil_append, followAll, pure_bind]
  | cons frame inner ih =>
    simp only [List.cons_append, followAll, bind_assoc]
    exact bind_congr fun v => ih v

/-- The argument at a position is carried out like any tree; where there is none, like nil. -/
theorem runArgument_eq (args : List Tree) (i : Nat) :
    runArgument id env args i = run id env (Tree.argument args i) := by
  induction args generalizing i with
  | nil => simp [runArgument, Tree.argument, run, Atom.evaluated]
  | cons t ts ih =>
    cases i with
    | zero => simp [runArgument, Tree.argument]
    | succ i => simpa [runArgument, Tree.argument] using ih i

/-! ## Notes stay -/

/-- Whether a scene has notes that start with given ones. -/
def Remembers (notes : List Note) (scene : Scene G) : Prop := notes <+: scene.notes

variable {notes : List Note}

omit [Source G] in
/-- What happens in the world leaves the notes. -/
theorem keeps_remembers_onWorld (attempt : Sim G α) :
    Attempt.Keeps (Remembers notes) (onWorld attempt) := by
  intro scene h
  rw [onWorld, Attempt.outcome_onPart]
  exact h

omit [Source G] in
/-- A new note leaves the others. -/
theorem keeps_remembers_note (entry : Note) :
    Attempt.Keeps (Remembers notes) (note entry : Play G Unit) :=
  fun _ h => h.trans (List.prefix_append _ _)

/-- A request that is carried out leaves the notes. -/
theorem keeps_remembers_carryOut (request : Request) :
    Attempt.Keeps (Remembers notes) (carryOut id env request) := by
  have goesOn : Attempt.Keeps (Remembers notes) (modify fun scene =>
      { scene with world := env scene.notes scene.world } : Play G PUnit) := fun _ h => h
  exact (keeps_remembers_onWorld _).bind fun _ => (keeps_remembers_note _).bind fun _ =>
    goesOn.bind fun _ => Attempt.keeps_pure _

omit [Source G] in
/-- The combination with a right operand leaves the notes if the operand does. -/
theorem keeps_remembers_runRight {right : Play G Atom}
    (h : Attempt.Keeps (Remembers notes) right) (combination : Combination) (a : Atom) :
    Attempt.Keeps (Remembers notes) (runRight right combination a) :=
  h.bind fun _ => Attempt.keeps_ofExcept _

omit [Source G] in
/-- The rounds of a loop leave the notes if a round does. -/
theorem keeps_remembers_runRounds {body : Play G Atom}
    (h : Attempt.Keeps (Remembers notes) body) (n : Nat) :
    Attempt.Keeps (Remembers notes) (runRounds body n) := by
  induction n with
  | zero => exact Attempt.keeps_pure _
  | succ n ih => exact h.bind fun _ => ih

/-- Trees in order leave the notes if each does. -/
theorem keeps_remembers_runSequence {ts : List Tree}
    (h : ∀ t ∈ ts, Attempt.Keeps (Remembers notes) (run id env t)) (last : Atom) :
    Attempt.Keeps (Remembers notes) (runSequence id env ts last) := by
  induction ts generalizing last with
  | nil => exact Attempt.keeps_pure _
  | cons t ts ih =>
    rw [List.forall_mem_cons] at h
    exact h.1.bind fun v => ih h.2 v

/-- A program that is carried out leaves the notes. -/
theorem keeps_remembers_run (t : Tree) : Attempt.Keeps (Remembers notes) (run id env t) := by
  induction t using Tree.induction with
  | atom a => exact Attempt.keeps_pure _
  | form items ih =>
    match items with
    | [] => exact Attempt.keeps_pure _
    | head :: args =>
      have each := (List.forall_mem_cons.mp ih).2
      have argument (i : Nat) : Attempt.Keeps (Remembers notes) (runArgument id env args i) := by
        rw [runArgument_eq]
        exact Tree.argument_of_forall (Attempt.keeps_pure _) each i
      have combines (combination : Combination) :=
        (argument 0).bind fun a => keeps_remembers_runRight (argument 1) combination a
      rw [run]
      refine (Attempt.keeps_ofExcept _).bind fun operator => ?_
      match operator with
      | none => exact Attempt.keeps_pure _
      | some (.sensor sensor) =>
        exact (keeps_remembers_onWorld _).bind fun _ =>
          (keeps_remembers_note _).bind fun _ => Attempt.keeps_pure _
      | some (.arithmetic operator) => exact combines (.arithmetic operator)
      | some (.comparison operator) => exact combines (.comparison operator)
      | some (.control .branch) =>
        apply (argument 0).bind
        intro condition
        split
        · exact argument 1
        · exact argument 2
      | some (.control .sequence) => exact keeps_remembers_runSequence each .nil
      | some (.control .loop) =>
        exact (argument 0).bind fun count => (Attempt.keeps_ofExcept _).bind fun n =>
          keeps_remembers_runRounds (argument 1) n.toNat
      | some (.action action) =>
        cases action with
        | fork =>
          exact (argument 0).bind fun percentage => keeps_remembers_carryOut _
        | _ => exact keeps_remembers_carryOut _

/-- What a frame has left to do leaves the notes. -/
theorem keeps_remembers_follow (frame : Frame) (v : Atom) :
    Attempt.Keeps (Remembers notes) (follow id env frame v) := by
  cases frame with
  | leftOperand combination second =>
    exact keeps_remembers_runRight (keeps_remembers_run second) combination v
  | rightOperand combination first => exact Attempt.keeps_ofExcept _
  | condition yes no =>
    rw [follow]
    split
    · exact keeps_remembers_run yes
    · exact keeps_remembers_run no
  | sequence rest => exact keeps_remembers_runSequence (fun t _ => keeps_remembers_run t) v
  | count body =>
    exact (Attempt.keeps_ofExcept _).bind fun n =>
      keeps_remembers_runRounds (keeps_remembers_run body) n.toNat
  | rounds body remaining => exact keeps_remembers_runRounds (keeps_remembers_run body) remaining
  | percentage => exact keeps_remembers_carryOut _

/-- What frames have left to do leaves the notes. -/
theorem keeps_remembers_followAll (frames : List Frame) (v : Atom) :
    Attempt.Keeps (Remembers notes) (followAll id env frames v) := by
  induction frames generalizing v with
  | nil => exact Attempt.keeps_pure _
  | cons frame frames ih => exact (keeps_remembers_follow frame v).bind ih

/-- What a held evaluation has left to do leaves the notes. -/
theorem keeps_remembers_remaining (program : Tree) (held : Option Execution) :
    Attempt.Keeps (Remembers notes) (remaining id env program held) := by
  match held with
  | none => exact keeps_remembers_run program
  | some (.suspended waiting) => exact keeps_remembers_followAll waiting .nil
  | some .spent => exact Attempt.keeps_pure _

/-! ## Observed evaluations simulate the recursion -/

omit [Source G] in
/-- What follows an observed evaluation goes on from its value and its notes. -/
theorem outcome_watch_bind {β : Type} (observed : Observed α) (next : α → Play G β)
    (world : World G) (notes : List Note) :
    (watch observed >>= next).outcome ⟨world, notes⟩ =
      match observed.outcome notes with
      | (.ok a, later) => (next a).outcome ⟨world, later⟩
      | (.error fault, later) => (.error fault, ⟨world, later⟩) := by
  rw [Attempt.outcome_bind, watch, Attempt.outcome_onPart]
  dsimp only
  generalize observed.outcome notes = outcome
  obtain ⟨result, later⟩ := outcome
  cases result <;> rfl

/-- Whether a computation in a world is an observed evaluation that is finished. -/
def Simulates (id : Nat) (env : Environment G) (world : World G) (computed : Play G Atom)
    (observed : Observed Outcome) : Prop :=
  ∀ notes, computed.outcome ⟨world, notes⟩ =
    (do finish id env (← watch observed)).outcome ⟨world, notes⟩

variable {world : World G}

/-- A value that is come to at once is simulated. -/
theorem simulates_value (v : Atom) :
    Simulates id env world (return v) (return .value v) := fun _ => rfl

/-- A request that is come to at once is simulated. -/
theorem simulates_request (request : Request) :
    Simulates id env world (carryOut id env request) (return .request request []) := by
  intro notes
  change _ = (do followAll id env [] (← carryOut id env request)).outcome _
  simp only [followAll, bind_pure]

/-- An evaluation without a state that is followed by others is simulated. -/
theorem Simulates.ofExcept (result : Except Fault α) {rest : α → Play G Atom}
    {next : α → Observed Outcome} (h : ∀ a, Simulates id env world (rest a) (next a)) :
    Simulates id env world (liftM result >>= rest) (liftM result >>= next) := by
  cases result with
  | error fault => exact fun _ => rfl
  | ok a => exact h a

/-- What is handed on is simulated by what the frames have left to do. -/
theorem Simulates.andThenAll {first : Play G Atom} {observed : Observed Outcome}
    (h : Simulates id env world first observed) (frames : List Frame)
    {next : Atom → Observed Outcome}
    (hn : ∀ v, Simulates id env world (followAll id env frames v) (next v)) :
    Simulates id env world (do followAll id env frames (← first))
      (do (← observed).andObserve frames next) := by
  intro notes
  have start := h notes
  rw [outcome_watch_bind] at start
  rw [outcome_watch_bind, Attempt.outcome_bind, Attempt.outcome_bind, start]
  generalize observed.outcome notes = outcome
  obtain ⟨result, later⟩ := outcome
  cases result with
  | error fault => rfl
  | ok outcome =>
    cases outcome with
    | value v => exact (hn v later).trans (outcome_watch_bind _ _ _ _)
    | request request waiting =>
      -- the frames wait for what the inner ones come to
      have outer : (do followAll id env frames (← finish id env (.request request waiting))) =
          finish id env (.request request (waiting ++ frames)) := by
        simp only [finish, followAll_append, bind_assoc]
      dsimp only
      rw [← Attempt.outcome_bind, outer]
      rfl

/-- What is handed on is simulated by what a frame has left to do. -/
theorem Simulates.andThen {first : Play G Atom} {observed : Observed Outcome}
    (h : Simulates id env world first observed) (frame : Frame) {next : Atom → Observed Outcome}
    (hn : ∀ v, Simulates id env world (follow id env frame v) (next v)) :
    Simulates id env world (do follow id env frame (← first))
      (do (← observed).andObserve [frame] next) := by
  have alone (v : Atom) : followAll id env [frame] v = follow id env frame v := by
    simp only [followAll, bind_pure]
  have all := h.andThenAll [frame] fun v => (alone v).symm ▸ hn v
  simpa only [alone] using all

/-- The combination of two values is simulated. -/
theorem simulates_combine (combination : Combination) (a b : Atom) :
    Simulates id env world (follow id env (.rightOperand combination a) b)
      (return .value (← combination.apply a b)) := by
  rw [follow]
  cases combination.apply a b with
  | error fault => exact fun _ => rfl
  | ok c => exact simulates_value c

/-- The combination with a right operand is simulated if the operand is. -/
theorem Simulates.right {right : Play G Atom} {observed : Observed Outcome}
    (h : Simulates id env world right observed) (combination : Combination) (a : Atom) :
    Simulates id env world (runRight right combination a) (observeRight observed combination a) :=
  h.andThen (.rightOperand combination a) fun b => simulates_combine combination a b

/-- The rounds of a loop are simulated if a round is. -/
theorem Simulates.rounds {body : Tree} {observed : Observed Outcome}
    (h : Simulates id env world (run id env body) observed) (n : Nat) :
    Simulates id env world (runRounds (run id env body) n) (observeRounds body observed n) := by
  induction n with
  | zero => exact simulates_value .nil
  | succ n ih => exact h.andThen (.rounds body n) fun _ => ih

/-- A loop is simulated if a round is. -/
theorem Simulates.loop {body : Tree} {observed : Observed Outcome}
    (h : Simulates id env world (run id env body) observed) (count : Atom) :
    Simulates id env world (runLoop (run id env body) count) (observeLoop body observed count) :=
  .ofExcept _ fun n => h.rounds n.toNat

omit [Source G] in
/-- A sensor of a known animal reads what the animal senses. -/
theorem outcome_sense {animal : Animal} (ha : world.roster[id]? = some animal) (sensor : Sensor) :
    (sense id sensor).outcome world = ((world.senses animal).read sensor, world) := by
  cases sensor with
  | foodHere => exact (outcome_animal_bind ha _).trans (outcome_food animal.cell world)
  | foodAhead =>
    have front : (ahead id).outcome world = (world.grid.wrap animal.front, world) :=
      (outcome_animal_bind ha _).trans (outcome_wrap animal.front world)
    change (ahead id >>= food).outcome world = (world.grid.wrap animal.front >>= _, world)
    rw [Attempt.outcome_bind, front]
    cases world.grid.wrap animal.front with
    | error fault => rfl
    | ok cell => exact outcome_food cell world
  | ownEnergy => exact outcome_animal_bind ha _

/-- The reading of a sensor of a known animal is simulated. -/
theorem simulates_look {animal : Animal} (ha : world.roster[id]? = some animal)
    (sensor : Sensor) :
    Simulates id env world (look id sensor) ((world.senses animal).observe sensor) := by
  intro notes
  have sensed : (onWorld (sense id sensor)).outcome ⟨world, notes⟩ =
      ((world.senses animal).read sensor, ⟨world, notes⟩) := by
    rw [onWorld, Attempt.outcome_onPart, outcome_sense ha]
  rw [look, Attempt.outcome_bind, sensed, outcome_watch_bind, Senses.observe, Attempt.outcome_bind,
    Attempt.outcome_ofExcept]
  cases (world.senses animal).read sensor <;> rfl

/-- Trees in order are simulated if each is. -/
theorem simulates_sequence {senses : Senses} {ts : List Tree}
    (h : ∀ t ∈ ts, Simulates id env world (run id env t) (observe senses t)) (last : Atom) :
    Simulates id env world (runSequence id env ts last) (observeSequence senses ts last) := by
  induction ts generalizing last with
  | nil => exact simulates_value last
  | cons t ts ih =>
    rw [List.forall_mem_cons] at h
    exact h.1.andThen (.sequence ts) fun v => ih h.2 v

section

variable {animal : Animal} (ha : world.roster[id]? = some animal)
include ha

/-- The observed evaluation of a tree simulates the recursion over it. -/
theorem simulates_run (t : Tree) :
    Simulates id env world (run id env t) (observe (world.senses animal) t) := by
  induction t using Tree.induction with
  | atom a => exact simulates_value a.evaluated
  | form items ih =>
    match items with
    | [] => exact simulates_value (.bool false)
    | head :: args =>
      have each := (List.forall_mem_cons.mp ih).2
      have argument (i : Nat) : Simulates id env world (run id env (Tree.argument args i))
          (observe (world.senses animal) (Tree.argument args i)) :=
        Tree.argument_of_forall (simulates_value (.bool false)) each i
      have combines (combination : Combination) :=
        (argument 0).andThen (.leftOperand combination (Tree.argument args 1))
          fun a => (argument 1).right combination a
      rw [run, observe]
      simp only [runArgument_eq, observeArgument_eq]
      refine .ofExcept _ fun operator => ?_
      cases operator with
      | none => exact simulates_value (.bool false)
      | some operator =>
        cases operator with
        | sensor sensor => exact simulates_look ha sensor
        | arithmetic operator => exact combines (.arithmetic operator)
        | comparison operator => exact combines (.comparison operator)
        | control control =>
          cases control with
          | branch =>
            apply (argument 0).andThen (.condition _ _)
            intro condition
            rw [follow]
            split
            · exact argument 1
            · exact argument 2
          | sequence => exact simulates_sequence each .nil
          | loop => exact (argument 0).andThen (.count _) fun count => (argument 1).loop count
        | action action =>
          cases action with
          | fork => exact (argument 0).andThen .percentage fun percentage => simulates_request _
          | _ => exact simulates_request _

/-- An observed frame simulates what the frame has left to do. -/
theorem simulates_follow (frame : Frame) (v : Atom) :
    Simulates id env world (follow id env frame v) (frame.observe (world.senses animal) v) := by
  have tree (t : Tree) : Simulates id env world (run id env t) (observe (world.senses animal) t) :=
    simulates_run ha t
  cases frame with
  | leftOperand combination second => exact (tree second).right combination v
  | rightOperand combination first => exact simulates_combine combination first v
  | condition yes no =>
    rw [follow, Frame.observe]
    split
    · exact tree yes
    · exact tree no
  | sequence rest => exact simulates_sequence (fun t _ => tree t) v
  | count body => exact (tree body).loop v
  | rounds body remaining => exact (tree body).rounds remaining
  | percentage => exact simulates_request _

/-- Observed frames simulate what the frames have left to do. -/
theorem simulates_followAll (frames : List Frame) (v : Atom) :
    Simulates id env world (followAll id env frames v)
      (observeDelivery (world.senses animal) frames v) := by
  induction frames generalizing v with
  | nil => exact simulates_value v
  | cons frame frames ih => exact (simulates_follow ha frame v).andThenAll frames ih

/-- An observed evaluation that is held simulates what it has left to do. -/
theorem simulates_remaining (program : Tree) {held : Option Execution} :
    Simulates id env world (remaining id env program held)
      (observeAdvance (world.senses animal) program held) := by
  match held with
  | none => exact simulates_run ha program
  | some (.suspended waiting) => exact simulates_followAll ha waiting .nil
  | some .spent => exact simulates_value .nil

end

end World

end Vivarium
