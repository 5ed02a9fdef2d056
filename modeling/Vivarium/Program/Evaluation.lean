import Vivarium.Program.Tree

/-!
# Evaluation of programs

A program is evaluated until it asks for an action; the caller carries the action out and later lets
the evaluation go on from there. Between two actions nothing in the world changes, so what an animal
senses is a fixed record, and a suspended evaluation is the list of frames that wait for the value
of the action, the innermost first.

Operands are evaluated from left to right, `if` evaluates its condition and one branch, `begin` its
arguments in order, `for` its count once and then its body as often as counted. A missing argument
is nil, and a form with an unknown head is false and evaluates nothing. An evaluation can only fail
by a fault of a sensor, by a number that fits no double or integer, or by a list for an operator.
However deep forms are nested and however long counts make it, it does not run out of room or time.
-/

namespace Vivarium

/-- What an animal senses at one moment. Reading a cell may be a fault. -/
structure Senses where
  /-- The food on the animal's own cell. -/
  foodHere : Except Fault Int
  /-- The food on the cell ahead. -/
  foodAhead : Except Fault Int
  /-- The animal's energy. -/
  energy : Int

/-- Read a sensor. -/
def Senses.read (senses : Senses) : Sensor → Except Fault Int
  | .foodHere => senses.foodHere
  | .foodAhead => senses.foodAhead
  | .ownEnergy => .ok senses.energy

/-- What a program asks its animal to do. -/
inductive Request where
  /-- An action without a parameter. -/
  | act (action : Action)
  /-- A fork, with the percentage asked for if it is a number. -/
  | fork (percentage : Option Number)

/-- The action that is asked for. -/
def Request.action : Request → Action
  | .act action => action
  | .fork _ => .fork

/-- Apply an arithmetic operator to two numbers. Division gives a whole number, rounded toward
zero, and zero for a zero divisor. -/
def Arithmetic.apply : Arithmetic → Number → Number → Except Fault Number
  | .add, x, y => x.add y
  | .subtract, x, y => x.sub y
  | .multiply, x, y => x.mul y
  | .divide, x, y => do return .int (← x.quotient y)

/-- Decide a comparison of two numbers, by their exact values. -/
def Comparison.holds : Comparison → Number → Number → Bool
  | .greater, x, y => y.lt x
  | .less, x, y => x.lt y
  | .equal, x, y => x.equal y

/-- The operators with two operands. -/
inductive Combination where
  | arithmetic (operator : Arithmetic)
  | comparison (operator : Comparison)

/-- Combine two values as numbers. -/
def Combination.apply (combination : Combination) (left right : Atom) : Except Fault Atom :=
  match combination with
  | .arithmetic operator => return .number (← operator.apply left.operand right.operand)
  | .comparison operator => return .bool (operator.holds left.operand right.operand)

/-- A place in a program that waits for a value. -/
inductive Frame where
  /-- The left operand is awaited, the right one not yet evaluated. -/
  | leftOperand (combination : Combination) (second : Tree)
  /-- The right operand is awaited. -/
  | rightOperand (combination : Combination) (first : Atom)
  /-- The condition of a branch is awaited. -/
  | condition (yes no : Tree)
  /-- An element of a sequence is awaited, others follow. -/
  | sequence (rest : List Tree)
  /-- The count of a loop is awaited. -/
  | count (body : Tree)
  /-- The end of a round is awaited, others follow. -/
  | rounds (body : Tree) (remaining : Nat)
  /-- The percentage of a fork is awaited. -/
  | percentage

/-- How far an evaluation comes without outside help. -/
inductive Outcome where
  /-- It ends with a value. -/
  | value (value : Atom)
  /-- It asks for an action, and these frames wait for the action's value. -/
  | request (request : Request) (waiting : List Frame)

/-- Hand a finished value on, or let a further frame wait. -/
def Outcome.andThen (outcome : Outcome) (frame : Frame) (next : Atom → Except Fault Outcome) :
    Except Fault Outcome :=
  match outcome with
  | .value v => next v
  | .request r waiting => .ok (.request r (waiting ++ [frame]))

/-- The value of an atom as a program. Nil is false, every other atom is its own value. -/
def Atom.evaluated : Atom → Atom
  | .nil => .bool false
  | a => a

/-- The rounds of a loop whose body comes as far as `once`. A round without an action leaves the
senses as they were, so all rounds after it would go alike and are skipped. -/
def playRounds (body : Tree) (once : Except Fault Outcome) : Nat → Except Fault Outcome
  | 0 => .ok (.value .nil)
  | n + 1 => do (← once).andThen (.rounds body n) fun _ => .ok (.value .nil)

/-- The rounds of a loop by its evaluated count: whole rounds only, none for a negative count. -/
def playLoop (body : Tree) (once : Except Fault Outcome) (count : Atom) :
    Except Fault Outcome := do
  playRounds body once (← count.operand.truncate).toNat

mutual

/-- Evaluate a tree until it ends or asks for an action. -/
def evaluate (senses : Senses) : Tree → Except Fault Outcome
  | .atom a => .ok (.value a.evaluated)
  | .form [] => .ok (.value (.bool false))
  | .form (head :: args) => do
    let combine (combination : Combination) : Except Fault Outcome := do
      (← evaluateArgument senses args 0).andThen
          (.leftOperand combination (Tree.argument args 1)) fun a => do
        (← evaluateArgument senses args 1).andThen (.rightOperand combination a) fun b =>
          return .value (← combination.apply a b)
    match ← head.lookup with
    | none => return .value (.bool false)
    | some (.sensor sensor) => return .value (.number (.int (← senses.read sensor)))
    | some (.arithmetic operator) => combine (.arithmetic operator)
    | some (.comparison operator) => combine (.comparison operator)
    | some (.control .branch) =>
      (← evaluateArgument senses args 0).andThen
        (.condition (Tree.argument args 1) (Tree.argument args 2)) fun condition =>
          if condition.isTrue then evaluateArgument senses args 1
          else evaluateArgument senses args 2
    | some (.control .sequence) => evaluateSequence senses args .nil
    | some (.control .loop) =>
      (← evaluateArgument senses args 0).andThen (.count (Tree.argument args 1)) fun count =>
        playLoop (Tree.argument args 1) (evaluateArgument senses args 1) count
    | some (.action .fork) =>
      (← evaluateArgument senses args 0).andThen .percentage fun percentage =>
        return .request (.fork percentage.number?) []
    | some (.action action) => return .request (.act action) []

/-- Evaluate the argument at a position. A missing argument is nil, and so false. -/
def evaluateArgument (senses : Senses) : List Tree → Nat → Except Fault Outcome
  | [], _ => .ok (.value (.bool false))
  | t :: _, 0 => evaluate senses t
  | _ :: ts, i + 1 => evaluateArgument senses ts i

/-- Evaluate trees in order. The value is that of the last, or `last` if there are none. -/
def evaluateSequence (senses : Senses) : List Tree → Atom → Except Fault Outcome
  | [], last => .ok (.value last)
  | t :: ts, _ => do
    (← evaluate senses t).andThen (.sequence ts) fun v => evaluateSequence senses ts v

end

/-- Go on from a frame that receives its value. -/
def Frame.resume (senses : Senses) (frame : Frame) (v : Atom) : Except Fault Outcome :=
  match frame with
  | .leftOperand combination second => do
    (← evaluate senses second).andThen (.rightOperand combination v) fun b =>
      return .value (← combination.apply v b)
  | .rightOperand combination first => return .value (← combination.apply first v)
  | .condition yes no => evaluate senses (if v.isTrue then yes else no)
  | .sequence rest => evaluateSequence senses rest v
  | .count body => playLoop body (evaluate senses body) v
  | .rounds body remaining => playRounds body (evaluate senses body) remaining
  | .percentage => .ok (.request (.fork v.number?) [])

/-- Hand a value to the innermost of the waiting frames and on outward, until the evaluation ends
or asks for an action. -/
def deliver (senses : Senses) : List Frame → Atom → Except Fault Outcome
  | [], v => .ok (.value v)
  | frame :: frames, v => do
    match ← frame.resume senses v with
    | .value v => deliver senses frames v
    | .request r waiting => return .request r (waiting ++ frames)

/-- An evaluation that is held between two actions. -/
inductive Execution where
  /-- These frames wait for the value of the last action. -/
  | suspended (waiting : List Frame)
  /-- A fault ended the evaluation, and nothing is left to do. -/
  | spent

/-- What becomes of a held evaluation by a fault in it. -/
def Execution.spoil (held : Option Execution) : Option Execution :=
  held.map fun _ => .spent

/-- Let an evaluation come to its next action or its end: the held one, or a new one of the
program if none is held. Actions have the value nil. -/
def advance (senses : Senses) (program : Tree) : Option Execution → Except Fault Outcome
  | none => evaluate senses program
  | some (.suspended waiting) => deliver senses waiting .nil
  | some .spent => .ok (.value .nil)

/-- The argument at a position is evaluated like any tree; where there is none, like nil. -/
theorem evaluateArgument_eq (senses : Senses) (args : List Tree) (i : Nat) :
    evaluateArgument senses args i = evaluate senses (Tree.argument args i) := by
  induction args generalizing i with
  | nil => simp [evaluateArgument, Tree.argument, evaluate, Atom.evaluated]
  | cons t ts ih =>
    cases i with
    | zero => simp [evaluateArgument, Tree.argument]
    | succ i => simpa [evaluateArgument, Tree.argument] using ih i

end Vivarium
