import Vivarium.Number.Word
import Vivarium.Number.Writing
import Vivarium.Program.Tree
import Vivarium.Text.Quoted

/-!
# The text of a program

A tree is written on one line: atoms as themselves, a form between parentheses with a space before
each argument. Heads are shown as plain values, which differs from the text of an argument for nil,
truth values and lists. The layout over several lines breaks before every argument of a form, save
that sensors and forms of nothing but atoms stay on their line.
-/

namespace Vivarium

/-- An atom as an argument. -/
def Atom.text : Atom → String
  | .nil => "nil"
  | .bool b => if b then "true" else "false"
  | .number n => n.text
  | .symbol name => name

/-- An atom as a plain value. -/
def Atom.display : Atom → String
  | .nil => "None"
  | .bool b => if b then "True" else "False"
  | .number n => n.text
  | .symbol name => name

/-- An atom as an element of a displayed list, where symbols stand in quotes. -/
def Atom.displayQuoted : Atom → String
  | .symbol name => Text.quoted name
  | a => a.display

namespace Tree

mutual

/-- A tree as an element of a displayed list. -/
def displayQuoted : Tree → String
  | .atom a => a.displayQuoted
  | .form [] => "[]"
  | .form (t :: ts) => "[" ++ displayQuoted t ++ displayRest ts ++ "]"

/-- The elements of a displayed list after its first, each behind a comma. -/
def displayRest : List Tree → String
  | [] => ""
  | t :: ts => ", " ++ displayQuoted t ++ displayRest ts

end

/-- A tree as a plain value: an atom by itself, a list between brackets. -/
def display : Tree → String
  | .atom a => a.display
  | t => t.displayQuoted

mutual

/-- A tree on one line. -/
def text : Tree → String
  | .atom a => a.text
  | .form [] => "()"
  | .form (head :: args) => "(" ++ head.display ++ textOfArguments args ++ ")"

/-- The arguments of a form on one line, each behind a space. -/
def textOfArguments : List Tree → String
  | [] => ""
  | t :: ts => " " ++ text t ++ textOfArguments ts

end

/-- Whether a form with this head and these arguments stays on one line. -/
def staysOnLine (head : Tree) (args : List Tree) : Bool :=
  (match head.operator? with
    | some (.sensor _) => true
    | _ => false) || args.all isAtom

/-- The margin of a line, two spaces for each level. -/
def margin (level : Int) : String :=
  String.ofList (List.replicate (2 * level.toNat) ' ')

mutual

/-- A tree laid out over several lines. Lines after the first have the margin of their level, which
is `level` for the tree itself. -/
def layout (level : Int) : Tree → String
  | .atom a => a.text
  | .form [] => "()"
  | .form (head :: args) =>
    if staysOnLine head args then text (.form (head :: args))
    else "(" ++ head.display ++ layoutOfArguments (level + 1) args ++ ")"

/-- The arguments of a form, each on a line of its own at the given level. -/
def layoutOfArguments (level : Int) : List Tree → String
  | [] => ""
  | t :: ts => "\n" ++ margin level ++ layout level t ++ layoutOfArguments level ts

end

/-- Whether the layout of a tree takes several lines. -/
def isSpread : Tree → Bool
  | .form (head :: args) => !staysOnLine head args
  | _ => false

/-- The fault of a layout whose first margin has a level, if it cannot be made. -/
def marginFault? (level : Int) : Option Fault :=
  let width := 2 * level
  if !fitsWord level then some .levelTooLarge
  else if width < memoryLimit then none
  else if fitsWord width then some .textMemory
  else some .textTooLong

/-- The layout of a tree, unless it has margins that cannot be made. -/
def layoutFrom (level : Int) (t : Tree) : Except Fault String :=
  match if t.isSpread then marginFault? (level + 1) else none with
  | some fault => .error fault
  | none => .ok (t.layout level)

/-- The layout of a tree that stays on its line can be made at every level. -/
theorem layoutFrom_of_not_isSpread {t : Tree} (h : t.isSpread = false) (level : Int) :
    t.layoutFrom level = .ok (t.layout level) := by
  simp only [layoutFrom, h, Bool.false_eq_true, if_false]

end Tree

end Vivarium
