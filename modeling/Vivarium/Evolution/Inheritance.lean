import Vivarium.Evolution.Body
import Vivarium.Evolution.Program

/-!
# Inheritance

What a forked child takes from its parent: body and program, each possibly mutated, a drifted colour,
and a share of the parent's energy after a loss.
-/

namespace Vivarium

/-- The chances of a mutation at a fork. -/
structure MutationChances where
  /-- The chance that the program of a child is mutated. -/
  program : Number := .double (Double.ofRat (35 / 100))
  /-- The chance that the body of a child is mutated. -/
  body : Number := .double (Double.ofRat (35 / 100))

/-- The least percentage of its energy that a parent hands over. -/
def leastPercentage : Int := 3

/-- The greatest percentage of its energy that a parent hands over. -/
def greatestPercentage : Int := 97

/-- The percentage that a fork uses for the one asked for: whole, zero if none was given, and within
its bounds. -/
def clampPercentage (asked : Option Number) : Except Fault Int := do
  let whole ←
    match asked with
    | some n => n.truncate
    | none => .ok 0
  return max leastPercentage (min greatestPercentage whole)

/-- The part of its energy that a parent keeps through a fork, child included. -/
def forkYield : Number := .double (Double.ofRat (9 / 10))

/-- A whole percentage of an amount, the product divided by one hundred and its fraction dropped. -/
def share (amount : Int) (percentage : Number) : Except Fault Int := do
  let product ← (Number.int amount).mul percentage
  (← product.divide (.int 100)).truncate

/-- The energies of parent and child after a fork that hands over a percentage of what is kept. -/
def splitEnergy (energy percentage kept : Number) : Except Fault (Int × Int) := do
  let left ← (← energy.mul kept).truncate
  let child ← share left percentage
  let parent ← share left (← (Number.int 100).sub percentage)
  return (parent, child)

/-- How far a colour drifts from parent to child at most. -/
def colorDrift : Int := 10

section

variable {G : Type} [Source G]

/-- A colour moved by at most `drift` around the circle of 256. -/
def driftColor (color drift : Int) : Attempt G Int := do
  return (color + (← Draw.within (-drift) drift)) % 256

/-- What a child takes from its parent. -/
structure Inheritance where
  /-- The child's body. -/
  body : Sprite
  /-- The child's program. -/
  program : Tree
  /-- The child's colour. -/
  color : Int

/-- Draw what a child takes from its parent: first the body, then the program, then the colour. -/
def inherit (body : Sprite) (program : Tree) (color : Int) (chances : MutationChances) :
    Attempt G Inheritance := do
  let childBody ←
    if ← (Draw.chance chances.body : Draw G _) then mutateBody body mutationAttempts
    else pure body
  let childProgram ←
    if ← (Draw.chance chances.program : Draw G _) then mutateProgram program else pure program
  let childColor ← driftColor color colorDrift
  return ⟨childBody, childProgram, childColor⟩

end

end Vivarium
