import Vivarium.Attempt
import Vivarium.Number.Basic

/-!
# Random draws

The simulation draws from an abstract source, so every statement about it holds for every stream of
random numbers. A source answers two questions: a number of the unit interval, and an index below a
positive bound. All other draws are built on these two, and each fixes how many questions it asks.
-/

namespace Vivarium

/-- A supply of random numbers with its own state. -/
class Source (G : Type) where
  /-- The next number of the unit interval. -/
  unit : G → Double × G
  /-- The next index below a positive bound. -/
  below : (bound : Nat) → 0 < bound → G → Fin bound × G

/-- A computation that draws from a source and cannot fail. -/
abbrev Draw (G : Type) := StateM G

/-- Run a draw as an attempt, which always succeeds. -/
def Draw.attempt {G α : Type} (draw : Draw G α) : Attempt G α := fun g =>
  let (a, g) := draw g
  .ok a g

instance {G : Type} : MonadLift (Draw G) (Attempt G) := ⟨Draw.attempt⟩

/-- A draw comes to its value and leaves the source where the draw left it. -/
@[simp] theorem Attempt.outcome_draw {G α : Type} (draw : Draw G α) (g : G) :
    Attempt.outcome (liftM draw : Attempt G α) g = (.ok (draw g).1, (draw g).2) := rfl

namespace Draw

variable {G : Type} [Source G] {α : Type}

/-- A number of the unit interval. -/
def unit : Draw G Double := fun g => Source.unit g

/-- An index below a positive bound. -/
def below (bound : Nat) (h : 0 < bound) : Draw G (Fin bound) := fun g => Source.below bound h g

/-- Whether an event of the given probability happens. -/
def chance (probability : Number) : Draw G Bool := do
  let u ← unit
  return (Number.double u).lt probability

/-- A fair coin. -/
def coin : Draw G Bool :=
  chance (.double (.finite (1 / 2)))

/-- An integer of a nonempty interval, both ends included. -/
def between (low high : Int) (h : low ≤ high) : Draw G Int := do
  let offset ← below (high + 1 - low).toNat (by omega)
  return low + offset.val

/-- An element of a nonempty list. -/
def choose (choices : List α) (h : choices ≠ []) : Draw G α := do
  let i ← below choices.length (List.length_pos_iff.mpr h)
  return choices[i]

/-- Exchange each position from `last` down to the second with one drawn at or before it. -/
def shuffleFrom (items : Array α) : (last : Nat) → Draw G (Array α)
  | 0 => return items
  | last + 1 => do
    let i ← below (last + 2) (by omega)
    shuffleFrom (items.swapIfInBounds (last + 1) i) last

/-- The elements of a list in a random order. -/
def shuffle (items : List α) : Draw G (List α) := do
  let shuffled ← shuffleFrom items.toArray (items.length - 1)
  return shuffled.toList

/-- An index below a bound, which must be positive. -/
def index (bound : Nat) : Attempt G Nat := do
  if h : 0 < bound then
    let i ← (below bound h : Draw G (Fin bound))
    return i.val
  else throw .emptyRange

/-- An integer between two ends, both included, which must be in order. -/
def within (low high : Int) : Attempt G Int := do
  if h : low ≤ high then (between low high h : Draw G Int)
  else throw (.emptyInterval low (high + 1) (high + 1 - low))

end Draw

end Vivarium
