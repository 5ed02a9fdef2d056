import Vivarium.Program.Evaluation
import Vivarium.Proofs.Program.Grammar

/-!
# Observed evaluations

An evaluation can be observed: every reading of a sensor is noted when it is made, also in the
rounds of a loop that an evaluation skips because they go like the first one. What an observed
evaluation comes to is what the evaluation comes to.
-/

namespace Vivarium

/-- What is noted of an animal. -/
inductive Note where
  /-- A sensor was read. -/
  | read (sensor : Sensor) (value : Int)
  /-- A request was carried out. -/
  | act (request : Request)

/-- An evaluation whose readings are noted. -/
abbrev Observed := Attempt (List Note)

/-- Read a sensor and note the reading. -/
def Senses.observe (senses : Senses) (sensor : Sensor) : Observed Outcome := do
  let value ← senses.read sensor
  modify (· ++ [.read sensor value])
  return .value (.number (.int value))

/-- Hand a finished value on, or let further frames wait, while readings are noted. -/
def Outcome.andObserve (outcome : Outcome) (frames : List Frame) (next : Atom → Observed Outcome) :
    Observed Outcome :=
  match outcome with
  | .value v => next v
  | .request r waiting => return .request r (waiting ++ frames)

/-- Observe the combination of a left operand with a right one. -/
def observeRight (right : Observed Outcome) (combination : Combination) (left : Atom) :
    Observed Outcome := do
  (← right).andObserve [.rightOperand combination left] fun b =>
    return .value (← combination.apply left b)

/-- Observe all rounds of a loop. -/
def observeRounds (body : Tree) (once : Observed Outcome) : Nat → Observed Outcome
  | 0 => return .value .nil
  | n + 1 => do (← once).andObserve [.rounds body n] fun _ => observeRounds body once n

/-- Observe the rounds of a loop by its evaluated count. -/
def observeLoop (body : Tree) (once : Observed Outcome) (count : Atom) : Observed Outcome := do
  observeRounds body once (← count.operand.truncate).toNat

mutual

/-- Observe the evaluation of a tree until it ends or asks for an action. -/
def observe (senses : Senses) : Tree → Observed Outcome
  | .atom a => return .value a.evaluated
  | .form [] => return .value (.bool false)
  | .form (head :: args) => do
    let combine (combination : Combination) : Observed Outcome := do
      (← observeArgument senses args 0).andObserve
        [.leftOperand combination (Tree.argument args 1)] fun a =>
          observeRight (observeArgument senses args 1) combination a
    match ← head.lookup with
    | none => return .value (.bool false)
    | some (.sensor sensor) => senses.observe sensor
    | some (.arithmetic operator) => combine (.arithmetic operator)
    | some (.comparison operator) => combine (.comparison operator)
    | some (.control .branch) =>
      (← observeArgument senses args 0).andObserve
        [.condition (Tree.argument args 1) (Tree.argument args 2)] fun condition =>
          if condition.isTrue then observeArgument senses args 1
          else observeArgument senses args 2
    | some (.control .sequence) => observeSequence senses args .nil
    | some (.control .loop) =>
      (← observeArgument senses args 0).andObserve [.count (Tree.argument args 1)] fun count =>
        observeLoop (Tree.argument args 1) (observeArgument senses args 1) count
    | some (.action .fork) =>
      (← observeArgument senses args 0).andObserve [.percentage] fun percentage =>
        return .request (.fork percentage.number?) []
    | some (.action action) => return .request (.act action) []

/-- Observe the evaluation of the argument at a position. A missing argument is false. -/
def observeArgument (senses : Senses) : List Tree → Nat → Observed Outcome
  | [], _ => return .value (.bool false)
  | t :: _, 0 => observe senses t
  | _ :: ts, i + 1 => observeArgument senses ts i

/-- Observe the evaluation of trees in order. -/
def observeSequence (senses : Senses) : List Tree → Atom → Observed Outcome
  | [], last => return .value last
  | t :: ts, _ => do
    (← observe senses t).andObserve [.sequence ts] fun v => observeSequence senses ts v

end

/-- Observe how a frame goes on. -/
def Frame.observe (senses : Senses) (frame : Frame) (v : Atom) : Observed Outcome :=
  match frame with
  | .leftOperand combination second => observeRight (Vivarium.observe senses second) combination v
  | .rightOperand combination first => return .value (← combination.apply first v)
  | .condition yes no =>
    if v.isTrue then Vivarium.observe senses yes else Vivarium.observe senses no
  | .sequence rest => observeSequence senses rest v
  | .count body => observeLoop body (Vivarium.observe senses body) v
  | .rounds body remaining => observeRounds body (Vivarium.observe senses body) remaining
  | .percentage => return .request (.fork v.number?) []

/-- Observe how the waiting frames go on. -/
def observeDelivery (senses : Senses) : List Frame → Atom → Observed Outcome
  | [], v => return .value v
  | frame :: frames, v => do
    (← frame.observe senses v).andObserve frames fun v => observeDelivery senses frames v

/-- Observe how a held evaluation goes on, or a new one of the program if none is held. -/
def observeAdvance (senses : Senses) (program : Tree) : Option Execution → Observed Outcome
  | none => observe senses program
  | some (.suspended waiting) => observeDelivery senses waiting .nil
  | some .spent => return .value .nil

/-! ## What is observed -/

/-- Whether an observed evaluation comes to what an evaluation comes to. -/
def Shows (observed : Observed Outcome) (attempt : Except Fault Outcome) : Prop :=
  ∀ notes, (observed.outcome notes).1 = attempt

/-- What goes on from what is shown, with what is shown, shows it. -/
theorem Shows.bind {α : Type} {observed : Observed α} {attempt : Except Fault α}
    (h : ∀ notes, (observed.outcome notes).1 = attempt) {next : α → Observed Outcome}
    {next' : α → Except Fault Outcome} (hn : ∀ a, Shows (next a) (next' a)) :
    Shows (observed >>= next) (attempt >>= next') := by
  intro notes
  have first := h notes
  rw [Attempt.outcome_bind]
  generalize observed.outcome notes = outcome at *
  obtain ⟨result, later⟩ := outcome
  subst first
  cases result with
  | error fault => rfl
  | ok a => exact hn a later

/-- What is handed on is shown. -/
theorem Shows.andThen {observed : Observed Outcome} {attempt : Except Fault Outcome}
    (h : Shows observed attempt) (frame : Frame) {next : Atom → Observed Outcome}
    {next' : Atom → Except Fault Outcome} (hn : ∀ v, Shows (next v) (next' v)) :
    Shows (do (← observed).andObserve [frame] next) (do (← attempt).andThen frame next') := by
  apply Shows.bind h
  intro outcome
  cases outcome with
  | value v => exact hn v
  | request r waiting => exact fun _ => rfl

/-- A value that is come to at once is shown. -/
theorem shows_value (v : Atom) : Shows (return .value v) (.ok (.value v)) := fun _ => rfl

/-- A request that is come to at once is shown. -/
theorem shows_request (request : Request) :
    Shows (return .request request []) (.ok (.request request [])) := fun _ => rfl

/-- A sensor read under observation is read. -/
theorem shows_read (senses : Senses) (sensor : Sensor) :
    Shows (senses.observe sensor) (do return .value (.number (.int (← senses.read sensor)))) := by
  intro notes
  rw [Senses.observe, Attempt.outcome_bind, Attempt.outcome_ofExcept]
  cases senses.read sensor <;> rfl

/-- Two values combined under observation are combined. -/
theorem shows_combine (combination : Combination) (a b : Atom) :
    Shows (return .value (← combination.apply a b))
      (do return .value (← combination.apply a b)) := by
  intro notes
  rw [Attempt.outcome_bind, Attempt.outcome_ofExcept]
  cases combination.apply a b <;> rfl

/-- The combination with a right operand is shown if the operand is. -/
theorem Shows.right {observed : Observed Outcome} {attempt : Except Fault Outcome}
    (h : Shows observed attempt) (combination : Combination) (a : Atom) :
    Shows (observeRight observed combination a)
      (do (← attempt).andThen (.rightOperand combination a) fun b =>
        return .value (← combination.apply a b)) :=
  h.andThen (.rightOperand combination a) fun b => shows_combine combination a b

/-- All rounds of a loop show those that are not skipped. -/
theorem Shows.rounds {once : Observed Outcome} {attempt : Except Fault Outcome}
    (h : Shows once attempt) (body : Tree) (n : Nat) :
    Shows (observeRounds body once n) (playRounds body attempt n) := by
  induction n with
  | zero => exact shows_value .nil
  | succ n ih =>
    intro notes
    have first := h notes
    rw [observeRounds, playRounds, Attempt.outcome_bind]
    generalize once.outcome notes = outcome at *
    obtain ⟨result, later⟩ := outcome
    subst first
    cases result with
    | error fault => rfl
    | ok outcome =>
      cases outcome with
      | request r waiting => rfl
      | value v =>
        -- the rounds that follow come to a value as well
        have skipped : playRounds body (.ok (.value v)) n = .ok (.value .nil) := by
          cases n <;> rfl
        exact (ih later).trans skipped

/-- A loop under observation shows a loop. -/
theorem Shows.loop {once : Observed Outcome} {attempt : Except Fault Outcome}
    (h : Shows once attempt) (body : Tree) (count : Atom) :
    Shows (observeLoop body once count) (playLoop body attempt count) := by
  refine Shows.bind (fun notes => ?_) fun n => h.rounds body n.toNat
  rw [Attempt.outcome_ofExcept]

variable {senses : Senses}

/-- Trees in order are shown if each is. -/
theorem shows_sequence {ts : List Tree}
    (h : ∀ t ∈ ts, Shows (observe senses t) (evaluate senses t)) (last : Atom) :
    Shows (observeSequence senses ts last) (evaluateSequence senses ts last) := by
  induction ts generalizing last with
  | nil => exact shows_value last
  | cons t ts ih =>
    rw [List.forall_mem_cons] at h
    rw [observeSequence, evaluateSequence]
    exact h.1.andThen (.sequence ts) fun v => ih h.2 v

/-- The argument at a position is observed like any tree; where there is none, like nil. -/
theorem observeArgument_eq (senses : Senses) (args : List Tree) (i : Nat) :
    observeArgument senses args i = observe senses (Tree.argument args i) := by
  induction args generalizing i with
  | nil => simp [observeArgument, Tree.argument, observe, Atom.evaluated]
  | cons t ts ih =>
    cases i with
    | zero => simp [observeArgument, Tree.argument]
    | succ i => simpa [observeArgument, Tree.argument] using ih i

/-- What the observed evaluation of a tree comes to is what its evaluation comes to. -/
theorem shows_evaluate (t : Tree) : Shows (observe senses t) (evaluate senses t) := by
  induction t using Tree.induction with
  | atom a => exact shows_value a.evaluated
  | form items ih =>
    match items with
    | [] => exact shows_value (.bool false)
    | head :: args =>
      have each := (List.forall_mem_cons.mp ih).2
      have argument (i : Nat) :
          Shows (observeArgument senses args i) (evaluateArgument senses args i) := by
        rw [observeArgument_eq, evaluateArgument_eq]
        exact Tree.argument_of_forall (shows_value (.bool false)) each i
      have combines (combination : Combination) :=
        (argument 0).andThen (.leftOperand combination (Tree.argument args 1))
          fun a => (argument 1).right combination a
      rw [observe, evaluate]
      apply Shows.bind (fun notes => by rw [Attempt.outcome_ofExcept])
      intro operator
      cases operator with
      | none => exact shows_value (.bool false)
      | some operator =>
        cases operator with
        | sensor sensor => exact shows_read senses sensor
        | arithmetic operator => exact combines (.arithmetic operator)
        | comparison operator => exact combines (.comparison operator)
        | control control =>
          cases control with
          | branch =>
            apply (argument 0).andThen (.condition _ _)
            intro condition
            split
            · exact argument 1
            · exact argument 2
          | sequence => exact shows_sequence each .nil
          | loop => exact (argument 0).andThen (.count _) fun count => (argument 1).loop _ count
        | action action =>
          cases action with
          | fork => exact (argument 0).andThen .percentage fun percentage => shows_request _
          | _ => exact shows_request _

/-- What an observed frame comes to is what the frame comes to. -/
theorem shows_resume (frame : Frame) (v : Atom) :
    Shows (frame.observe senses v) (frame.resume senses v) := by
  cases frame with
  | leftOperand combination second => exact (shows_evaluate second).right combination v
  | rightOperand combination first => exact shows_combine combination first v
  | condition yes no =>
    rw [Frame.observe, Frame.resume]
    split
    · exact shows_evaluate yes
    · exact shows_evaluate no
  | sequence rest => exact shows_sequence (fun t _ => shows_evaluate t) v
  | count body => exact (shows_evaluate body).loop body v
  | rounds body remaining => exact (shows_evaluate body).rounds body remaining
  | percentage => exact shows_request _

/-- What observed frames come to is what the frames come to. -/
theorem shows_deliver (frames : List Frame) (v : Atom) :
    Shows (observeDelivery senses frames v) (deliver senses frames v) := by
  induction frames generalizing v with
  | nil => exact shows_value v
  | cons frame frames ih =>
    rw [observeDelivery, deliver]
    apply Shows.bind (shows_resume frame v)
    intro outcome
    cases outcome with
    | value v => exact ih v
    | request r waiting => exact fun _ => rfl

/-- What an observed evaluation comes to is what the evaluation comes to. -/
theorem shows_advance (program : Tree) (held : Option Execution) :
    Shows (observeAdvance senses program held) (advance senses program held) := by
  match held with
  | none => exact shows_evaluate program
  | some (.suspended waiting) => exact shows_deliver waiting .nil
  | some .spent => exact shows_value .nil

/-! ## What is noted -/

/-- Whether a note is a reading of the senses. -/
def Senses.Gives (senses : Senses) : Note → Prop
  | .read sensor value => senses.read sensor = .ok value
  | .act _ => False

/-- Whether nothing but readings of the senses was added to the notes. -/
def Senses.Extends (senses : Senses) (notes later : List Note) : Prop :=
  ∃ readings, later = notes ++ readings ∧ ∀ entry ∈ readings, senses.Gives entry

variable {notes : List Note}

/-- A sensor read under observation adds a reading. -/
theorem keeps_extends_read (sensor : Sensor) :
    Attempt.Keeps (senses.Extends notes) (senses.observe sensor) := by
  intro later h
  obtain ⟨readings, rfl, gives⟩ := h
  rw [Senses.observe, Attempt.outcome_bind, Attempt.outcome_ofExcept]
  cases hr : senses.read sensor with
  | error fault => exact ⟨readings, rfl, gives⟩
  | ok value =>
    refine ⟨readings ++ [.read sensor value], ?_, fun entry he => ?_⟩
    · exact List.append_assoc notes readings _
    · rcases List.mem_append.mp he with earlier | last
      · exact gives entry earlier
      · rw [List.mem_singleton.mp last]
        exact hr

variable {observed : Observed Outcome}

/-- What is handed on adds readings if its parts do. -/
theorem keeps_extends_andObserve (h : Attempt.Keeps (senses.Extends notes) observed)
    (frames : List Frame) {next : Atom → Observed Outcome}
    (hn : ∀ v, Attempt.Keeps (senses.Extends notes) (next v)) :
    Attempt.Keeps (senses.Extends notes) (do (← observed).andObserve frames next) := by
  apply h.bind
  intro outcome
  cases outcome with
  | value v => exact hn v
  | request r waiting => exact Attempt.keeps_pure _

/-- The combination with a right operand adds readings if the operand does. -/
theorem keeps_extends_right (h : Attempt.Keeps (senses.Extends notes) observed)
    (combination : Combination) (a : Atom) :
    Attempt.Keeps (senses.Extends notes) (observeRight observed combination a) :=
  keeps_extends_andObserve h _ fun _ =>
    (Attempt.keeps_ofExcept _).bind fun _ => Attempt.keeps_pure _

/-- The rounds of a loop add readings if a round does. -/
theorem keeps_extends_rounds (h : Attempt.Keeps (senses.Extends notes) observed) (body : Tree)
    (n : Nat) : Attempt.Keeps (senses.Extends notes) (observeRounds body observed n) := by
  induction n with
  | zero => exact Attempt.keeps_pure _
  | succ n ih => exact keeps_extends_andObserve h _ fun _ => ih

/-- Trees in order add readings if each does. -/
theorem keeps_extends_sequence {ts : List Tree}
    (h : ∀ t ∈ ts, Attempt.Keeps (senses.Extends notes) (observe senses t)) (last : Atom) :
    Attempt.Keeps (senses.Extends notes) (observeSequence senses ts last) := by
  induction ts generalizing last with
  | nil => exact Attempt.keeps_pure _
  | cons t ts ih =>
    rw [List.forall_mem_cons] at h
    exact keeps_extends_andObserve h.1 _ fun v => ih h.2 v

/-- The observed evaluation of a tree adds nothing but readings. -/
theorem keeps_extends_observe (t : Tree) :
    Attempt.Keeps (senses.Extends notes) (observe senses t) := by
  induction t using Tree.induction with
  | atom a => exact Attempt.keeps_pure _
  | form items ih =>
    match items with
    | [] => exact Attempt.keeps_pure _
    | head :: args =>
      have each := (List.forall_mem_cons.mp ih).2
      have argument (i : Nat) :
          Attempt.Keeps (senses.Extends notes) (observeArgument senses args i) := by
        rw [observeArgument_eq]
        exact Tree.argument_of_forall (Attempt.keeps_pure _) each i
      have combines (combination : Combination) :=
        keeps_extends_andObserve (argument 0) [.leftOperand combination (Tree.argument args 1)]
          fun a => keeps_extends_right (argument 1) combination a
      rw [observe]
      refine (Attempt.keeps_ofExcept _).bind fun operator => ?_
      match operator with
      | none => exact Attempt.keeps_pure _
      | some (.sensor sensor) => exact keeps_extends_read sensor
      | some (.arithmetic operator) => exact combines (.arithmetic operator)
      | some (.comparison operator) => exact combines (.comparison operator)
      | some (.control .branch) =>
        apply keeps_extends_andObserve (argument 0) _
        intro condition
        split
        · exact argument 1
        · exact argument 2
      | some (.control .sequence) => exact keeps_extends_sequence each .nil
      | some (.control .loop) =>
        exact keeps_extends_andObserve (argument 0) _ fun count =>
          (Attempt.keeps_ofExcept _).bind fun n => keeps_extends_rounds (argument 1) _ n.toNat
      | some (.action action) =>
        cases action with
        | fork =>
          exact keeps_extends_andObserve (argument 0) _ fun percentage => Attempt.keeps_pure _
        | _ => exact Attempt.keeps_pure _

/-- An observed frame adds nothing but readings. -/
theorem keeps_extends_resume (frame : Frame) (v : Atom) :
    Attempt.Keeps (senses.Extends notes) (frame.observe senses v) := by
  cases frame with
  | leftOperand combination second =>
    exact keeps_extends_right (keeps_extends_observe second) combination v
  | rightOperand combination first =>
    exact (Attempt.keeps_ofExcept _).bind fun _ => Attempt.keeps_pure _
  | condition yes no =>
    rw [Frame.observe]
    split
    · exact keeps_extends_observe yes
    · exact keeps_extends_observe no
  | sequence rest => exact keeps_extends_sequence (fun t _ => keeps_extends_observe t) v
  | count body =>
    exact (Attempt.keeps_ofExcept _).bind fun n =>
      keeps_extends_rounds (keeps_extends_observe body) _ n.toNat
  | rounds body remaining => exact keeps_extends_rounds (keeps_extends_observe body) _ remaining
  | percentage => exact Attempt.keeps_pure _

/-- Observed frames add nothing but readings. -/
theorem keeps_extends_deliver (frames : List Frame) (v : Atom) :
    Attempt.Keeps (senses.Extends notes) (observeDelivery senses frames v) := by
  induction frames generalizing v with
  | nil => exact Attempt.keeps_pure _
  | cons frame frames ih => exact keeps_extends_andObserve (keeps_extends_resume frame v) _ ih

/-- An observed evaluation adds nothing but readings of the senses. -/
theorem keeps_extends_advance (program : Tree) (held : Option Execution) :
    Attempt.Keeps (senses.Extends notes) (observeAdvance senses program held) := by
  match held with
  | none => exact keeps_extends_observe program
  | some (.suspended waiting) => exact keeps_extends_deliver waiting .nil
  | some .spent => exact Attempt.keeps_pure _

end Vivarium
