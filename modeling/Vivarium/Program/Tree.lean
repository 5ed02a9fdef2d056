import Vivarium.Number.Basic
import Vivarium.Program.Vocabulary

/-!
# Program trees

A program is a tree of atoms and forms. A form is a list of trees whose first element, the head,
stands for an operator; the other elements are its arguments. Trees need not be well formed: a form
may be empty, and any tree may stand as its head. There is no bound on the depth of a tree: what
recurs over trees is taken to have room for every one of them.
-/

namespace Vivarium

/-- The indivisible values of programs: nil, truth values, numbers and symbols. -/
inductive Atom where
  | nil
  | bool (value : Bool)
  | number (value : Number)
  | symbol (name : String)
  deriving DecidableEq

namespace Atom

instance : Inhabited Atom := ⟨.nil⟩

/-- The number that an atom counts as, if it is one. Truth values count as one and zero. -/
def number? : Atom → Option Number
  | .bool b => some (.int (if b then 1 else 0))
  | .number n => some n
  | _ => none

/-- The number that an atom counts as as an operand: zero if it is no number. -/
def operand (a : Atom) : Number :=
  a.number?.getD (.int 0)

/-- Whether an atom counts as true: it is neither nil, false, zero nor the empty symbol. -/
def isTrue : Atom → Bool
  | .nil => false
  | .bool b => b
  | .number n => !n.isZero
  | .symbol s => s ≠ ""

/-- The kind of value that an atom is. -/
def kind : Atom → Kind
  | .nil => .nothing
  | .bool _ => .boolean
  | .number (.int _) => .integer
  | .number (.double _) => .double
  | .symbol _ => .text

end Atom

/-- A program tree. -/
inductive Tree where
  | atom (value : Atom)
  | form (items : List Tree)

namespace Tree

/-- The nil tree. -/
abbrev nil : Tree := .atom .nil

/-- The tree of a symbol. -/
abbrev symbol (name : String) : Tree := .atom (.symbol name)

/-- The tree of an integer. -/
abbrev int (value : Int) : Tree := .atom (.number (.int value))

/-- The form of an operator and its arguments. -/
abbrev apply (operator : Operator) (args : List Tree) : Tree :=
  .form (symbol operator.name :: args)

instance : Inhabited Tree := ⟨nil⟩

/-- A property holds of all trees if it holds of atoms and of every form whose items all have it. -/
@[elab_as_elim] theorem induction {motive : Tree → Prop} (atom : ∀ a, motive (.atom a))
    (form : ∀ items, (∀ t ∈ items, motive t) → motive (.form items)) : (t : Tree) → motive t
  | .atom a => atom a
  | .form items => form items fun t _ => induction atom form t

mutual

/-- Decide whether two trees are equal. -/
def decEq : (t u : Tree) → Decidable (t = u)
  | .atom a, .atom b => decidable_of_iff (a = b) (by simp)
  | .form ts, .form us =>
    match decEqList ts us with
    | .isTrue h => .isTrue (by rw [h])
    | .isFalse h => .isFalse (by simpa using h)
  | .atom _, .form _ => .isFalse nofun
  | .form _, .atom _ => .isFalse nofun

/-- Decide whether two lists of trees are equal. -/
def decEqList : (ts us : List Tree) → Decidable (ts = us)
  | [], [] => .isTrue rfl
  | t :: ts, u :: us =>
    match decEq t u, decEqList ts us with
    | .isTrue h, .isTrue h' => .isTrue (by rw [h, h'])
    | .isFalse h, _ => .isFalse fun eq => h (List.cons.inj eq).1
    | _, .isFalse h => .isFalse fun eq => h (List.cons.inj eq).2
  | [], _ :: _ => .isFalse nofun
  | _ :: _, [] => .isFalse nofun

end

instance : DecidableEq Tree := decEq

/-- Whether a tree is a form with a head. -/
def isForm : Tree → Bool
  | .form (_ :: _) => true
  | _ => false

/-- Whether a tree is an atom. -/
def isAtom : Tree → Bool
  | .atom _ => true
  | .form _ => false

/-- The kind of value that a tree is. -/
def kind : Tree → Kind
  | .atom a => a.kind
  | .form _ => .sequence

/-- The number that a tree counts as, if it is one. -/
def number? : Tree → Option Number
  | .atom a => a.number?
  | .form _ => none

/-- The operator that a head names, if any. -/
def operator? : Tree → Option Operator
  | .atom (.symbol name) => Operator.ofName? name
  | _ => none

/-- Look the head of a form up among the operators. A list can head a form but not be looked
up. -/
def lookup (head : Tree) : Except Fault (Option Operator) :=
  match head with
  | .form _ => .error .listAsOperator
  | _ => .ok head.operator?

/-- The argument at a position, nil if there is none. -/
def argument (args : List Tree) (i : Nat) : Tree :=
  args[i]?.getD nil

mutual

/-- The number of nodes. Heads belong to their forms and are not counted by themselves. -/
def nodeCount : Tree → Nat
  | .atom _ => 1
  | .form [] => 1
  | .form (_ :: args) => 1 + nodeCounts args

/-- The number of nodes of several trees together. -/
def nodeCounts : List Tree → Nat
  | [] => 0
  | t :: ts => nodeCount t + nodeCounts ts

end

/-- Every tree has a node. -/
theorem nodeCount_pos (t : Tree) : 0 < t.nodeCount := by
  match t with
  | .atom _ => exact Nat.one_pos
  | .form [] => exact Nat.one_pos
  | .form (_ :: args) =>
    rw [nodeCount]
    omega

mutual

/-- Whether every form has a known operator as its head. Forms are examined from the outside in and
from left to right, up to the first that fails, and a list met as a head is a fault. -/
def wellFormed : Tree → Except Fault Bool
  | .atom _ => .ok true
  | .form [] => .ok false
  | .form (head :: args) => do
    match ← head.lookup with
    | none => return false
    | some _ => allWellFormed args

/-- Whether several trees are all well formed, examined up to the first that is not. -/
def allWellFormed : List Tree → Except Fault Bool
  | [] => .ok true
  | t :: ts => do
    if ← wellFormed t then allWellFormed ts else return false

end

/-- The program that new lineages start with: eat where food is and fork when rich, otherwise move
to food ahead, otherwise look around and wander. -/
def herbivore : Tree :=
  sequence [
    branch (above .foodHere 0)
      (sequence [
        act .eat,
        branch (above .ownEnergy 700) (apply (.action .fork) [int 30]) nil])
      (branch (above .foodAhead 0)
        (act .move)
        (sequence [
          loop 3 (sequence [act .turnLeft, branch (above .foodAhead 0) (act .move) nil]),
          loop 4 (branch (above .foodHere 0) (act .eat) (act .move))]))]
where
  sequence (steps : List Tree) : Tree := apply (.control .sequence) steps
  branch (condition yes no : Tree) : Tree := apply (.control .branch) [condition, yes, no]
  loop (count : Int) (body : Tree) : Tree := apply (.control .loop) [int count, body]
  act (action : Action) : Tree := apply (.action action) []
  above (sensor : Sensor) (threshold : Int) : Tree :=
    apply (.comparison .greater) [apply (.sensor sensor) [], int threshold]

end Tree

end Vivarium
