import Vivarium.Position
import Vivarium.Program.Tree

/-!
# Paths

A path leads from the root of a tree to one of its parts by list positions. The head of a form is at
position zero. The nodes of a tree are at the paths that avoid heads. A negative position counts
from the end.
-/

namespace Vivarium

/-- The list positions that lead from the root to a part of a tree. -/
abbrev Path := List Int

namespace Tree

mutual

/-- The paths to all nodes, each form before its arguments and arguments from left to right. -/
def paths : Tree → List Path
  | .atom _ => [[]]
  | .form [] => [[]]
  | .form (_ :: args) => [] :: argumentPaths args 1

/-- The paths to all nodes of the arguments of a form, the first of which is at the given
position. -/
def argumentPaths : List Tree → Nat → List Path
  | [], _ => []
  | t :: ts, i => (paths t).map ((i : Int) :: ·) ++ argumentPaths ts (i + 1)

end

/-- The part of a tree at one position. Symbols have their characters as parts. -/
def part (t : Tree) (i : Int) : Except Fault Tree :=
  match t with
  | .form items =>
    match place? items.length i with
    | some place => .ok items[place]
    | none => .error (misplaced i .listIndex)
  | .atom (.symbol name) =>
    let chars := name.toList
    match place? chars.length i with
    | some place => .ok (symbol (String.ofList [chars[place]]))
    | none => .error (misplaced i .textIndex)
  | .atom a => .error (.notIndexable a.kind)

/-- The tree with its part at one position replaced. Only forms have replaceable parts. -/
def replacePart (t : Tree) (i : Int) (value : Tree) : Except Fault Tree :=
  match t with
  | .form items =>
    match place? items.length i with
    | some place => .ok (.form (items.set place value))
    | none => .error (misplaced i .listAssignment)
  | .atom a => .error (.notAssignable a.kind)

/-- The part of a tree that a path leads to. -/
def get (t : Tree) : Path → Except Fault Tree
  | [] => .ok t
  | i :: rest => do (← t.part i).get rest

/-- The tree with the part that a path leads to replaced. -/
def set (t : Tree) (path : Path) (value : Tree) : Except Fault Tree :=
  match path with
  | [] => .ok value
  | [i] => t.replacePart i value
  | i :: rest => do
    let inner ← (← t.part i).set rest value
    t.replacePart i inner

/-- The empty path leads to the tree itself. -/
@[simp] theorem get_nil (t : Tree) : t.get [] = .ok t := rfl

/-- Replacement at the empty path replaces the whole tree. -/
@[simp] theorem set_nil (t value : Tree) : t.set [] value = .ok value := rfl

mutual

/-- There is one path for every node. -/
theorem length_paths (t : Tree) : t.paths.length = t.nodeCount := by
  match t with
  | .atom _ => rfl
  | .form [] => rfl
  | .form (_ :: args) =>
    simp only [paths, nodeCount, List.length_cons, length_argumentPaths args 1]
    omega

/-- There is one path for every node of the arguments. -/
theorem length_argumentPaths (args : List Tree) (i : Nat) :
    (argumentPaths args i).length = nodeCounts args := by
  match args with
  | [] => rfl
  | t :: ts =>
    simp only [argumentPaths, nodeCounts, List.length_append, List.length_map, length_paths t,
      length_argumentPaths ts (i + 1)]

end

end Tree

end Vivarium
