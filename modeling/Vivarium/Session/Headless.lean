import Vivarium.World.Report
import Vivarium.World.Step

/-!
# Runs without a window

A run lets a number of ticks pass. The figures of the world are reported at regular intervals and the
richest animal at the end.
-/

namespace Vivarium.World

variable {G : Type} [Source G]

/-- Let `count` ticks pass and report the figures after those whose number is a multiple of
`interval`, after none if the interval is not positive. -/
def reportedSteps (interval : Int) : (count : Nat) → Sim G Unit
  | 0 => return ()
  | count + 1 => do
    step
    let world : World G ← get
    if 0 < interval ∧ (world.tick : Int) % interval = 0 then reportStats
    reportedSteps interval count

/-- A run without a window. -/
def runHeadless (ticks interval : Int) : Sim G Unit := do
  reportedSteps interval ticks.toNat
  reportRichest

end Vivarium.World
