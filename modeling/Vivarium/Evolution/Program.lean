import Vivarium.Program.Path
import Vivarium.Random.Source

/-!
# Mutation of programs

One node other than the root is picked, all with the same chance, and one of four edits is made
there: it is wrapped in a branch or a loop, changed within its kind, doubled, or collapsed.
-/

namespace Vivarium

variable {G : Type} [Source G]

/-- An action form with a random action, the percentage of a fork drawn from twenty to
seventy-nine. -/
def randomAction : Draw G Tree := do
  match ← Draw.choose Action.all (by decide) with
  | .fork =>
    let percentage ← Draw.between 20 79 (by decide)
    return Tree.apply (.action .fork) [Tree.int percentage]
  | action => return Tree.apply (.action action) []

/-- A sensor form with a random sensor. -/
def randomSensor : Draw G Tree := do
  let sensor ← Draw.choose Sensor.all (by decide)
  return Tree.apply (.sensor sensor) []

/-- A random comparison of a random sensor with a threshold below one hundred. -/
def randomComparison : Draw G Tree := do
  let comparison ← Draw.choose Comparison.all (by decide)
  let sensor ← randomSensor
  let threshold ← Draw.between 0 99 (by decide)
  return Tree.apply (.comparison comparison) [sensor, Tree.int threshold]

/-- Go through candidates of which `seen` came before. Each replaces the choice so far when zero
is drawn among as many numbers as candidates were met. -/
def reservoir {α : Type} (seen : Nat) (chosen : Option α) : List α → Draw G (Option α)
  | [] => return chosen
  | candidate :: rest => do
    let i ← Draw.below (seen + 1) (by omega)
    reservoir (seen + 1) (if i.val = 0 then some candidate else chosen) rest

/-- The path of a random node other than the root, if there is one. -/
def pickPath (t : Tree) : Draw G (Option Path) :=
  reservoir 0 none t.paths.tail

/-- A number moved by a small step, and at least zero. -/
def nudge (n : Number) (step : Int) : Number :=
  let moved : Number :=
    match n with
    | .int n => .int (n + step)
    | .double x => .double (x + Double.ofRat step)
  if (Number.int 0).lt moved then moved else .int 0

/-- The count of a loop as far as it is an integer, and two otherwise. -/
def loopCount : Tree → Int
  | .atom (.number (.int n)) => n
  | _ => 2

/-- A change of a node within its kind: nil becomes an action, a number moves, sensors, actions and
comparisons are drawn anew, a branch swaps its arms, a loop counts one more or less, and a sequence
is shuffled. Everything else stays. -/
def changeWithinKind : Tree → Draw G Tree
  | .atom .nil => randomAction
  | .atom (.number n) => do
    let step ← Draw.between (-20) 20 (by decide)
    return .atom (.number (nudge n step))
  | .atom a => return .atom a
  | .form [] => return .form []
  | .form (head :: args) => do
    match head.operator? with
    | some (.sensor _) => randomSensor
    | some (.action _) => randomAction
    | some (.comparison _) =>
      let comparison ← Draw.choose Comparison.all (by decide)
      return Tree.apply (.comparison comparison) args
    | some (.control .branch) =>
      return Tree.apply (.control .branch)
        (Tree.argument args 0 :: Tree.argument args 2 :: Tree.argument args 1 :: args.drop 3)
    | some (.control .loop) =>
      let step ← Draw.choose [1, -1] (by decide)
      return Tree.apply (.control .loop)
        [Tree.int (max 1 (loopCount (Tree.argument args 0) + step)), Tree.argument args 1]
    | some (.control .sequence) => return Tree.apply (.control .sequence) (← Draw.shuffle args)
    | some (.arithmetic _) | none => return .form (head :: args)

/-- A node collapsed to one of its parts: a branch to one of its arms, a loop to its body, a sequence
to one of its elements, and everything else to nil. -/
def collapse : Tree → Draw G Tree
  | .atom _ => return .nil
  | .form [] => return .nil
  | .form (head :: args) => do
    match head.operator? with
    | some (.control .branch) =>
      Draw.choose [Tree.argument args 1, Tree.argument args 2] (by simp)
    | some (.control .loop) => return Tree.argument args 1
    | some (.control .sequence) =>
      if h : args ≠ [] then Draw.choose args h else return .nil
    | _ => return .nil

/-- A node wrapped, by the toss of a coin, in a branch with a random condition and the node in both
arms, or in a loop of two rounds. -/
def wrap (node : Tree) : Draw G Tree := do
  if ← Draw.coin then
    return Tree.apply (.control .branch) [← randomComparison, node, node]
  else
    return Tree.apply (.control .loop) [Tree.int 2, node]

/-- The edits of a mutation. -/
inductive Edit where
  | wrap
  | change
  | duplicate
  | collapse
  deriving DecidableEq, Repr

/-- The edit for a number of the unit interval, a quarter of it for each. -/
def Edit.ofRoll (roll : Double) : Edit :=
  if roll.lt (.finite (1 / 4)) then .wrap
  else if roll.lt (.finite (1 / 2)) then .change
  else if roll.lt (.finite (3 / 4)) then .duplicate
  else .collapse

/-- Double the node at a path, which is not the root. Within a sequence the copy is put in front of
it; elsewhere a sequence of both takes its place. -/
def duplicateAt (program : Tree) (path : Path) (node : Tree) : Except Fault Tree := do
  let parentPath := path.dropLast
  match ← program.get parentPath with
  | .form (head :: args) =>
    if head.operator? = some (.control .sequence) then
      let place := (path.getLastD 0).toNat
      program.set parentPath (.form ((head :: args).insertIdx place node))
    else
      program.set path (Tree.apply (.control .sequence) [node, node])
  | _ => program.set path (Tree.apply (.control .sequence) [node, node])

/-- A mutated program. A program without a node other than its root stays as it is. -/
def mutateProgram (program : Tree) : Attempt G Tree := do
  match ← (pickPath program : Draw G _) with
  | none => return program
  | some path =>
    let node ← program.get path
    match Edit.ofRoll (← (Draw.unit : Draw G _)) with
    | .wrap => program.set path (← (wrap node : Draw G _))
    | .change => program.set path (← (changeWithinKind node : Draw G _))
    | .duplicate => duplicateAt program path node
    | .collapse => program.set path (← (collapse node : Draw G _))

end Vivarium
