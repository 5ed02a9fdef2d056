import Vivarium.Display.Color
import Vivarium.Program.Text
import Vivarium.World.Report

/-!
# The status line

A line at the bottom of the window shows figures of the world, the frame rate and whether the
simulation is paused.
-/

namespace Vivarium

/-- The figures of a status line. Any value can be shown, zero where there is none; the plants must
be a number. -/
structure Figures where
  population : Tree := .int 0
  plantMass : Tree := .int 0
  births : Tree := .int 0
  deaths : Tree := .int 0
  tick : Tree := .int 0

namespace Figures

/-- The figures of a world. -/
def ofStats (stats : Stats) : Figures where
  population := .int stats.population
  plantMass := .int stats.plantMass
  births := .int stats.births
  deaths := .int stats.deaths
  tick := .int stats.tick

/-- The plants in thousands, rounded down. -/
def thousands (plantMass : Tree) : Except Fault Number :=
  match plantMass.number? with
  | some n => n.floorDiv (.int 1000)
  | none => .error (.notDivisible plantMass.kind)

/-- The text of the status line. -/
def text (figures : Figures) (rate : Number) (paused : Bool) : Except Fault String := do
  let plants ← thousands figures.plantMass
  let rate ← rate.toDouble
  return "creatures: " ++ figures.population.display ++ "  plants: " ++ plants.text ++
    "k  births: " ++ figures.births.display ++ "  deaths: " ++ figures.deaths.display ++
    "  tick: " ++ figures.tick.display ++ "  fps: " ++ rate.fixedText 0 ++
    (if paused then "  PAUSED" else "")

end Figures

/-- A text as it is put on a window. -/
structure Label where
  /-- What it says. -/
  text : String
  /-- The size of its letters. -/
  size : Nat
  /-- The colour of its letters. -/
  foreground : Color
  /-- The colour behind it. -/
  background : Color

/-- The status line as it is put on a window. -/
def statusLabel (text : String) : Label :=
  ⟨text, 22, Color.statusText, Color.statusBackground⟩

/-- The left end and top of a status line of some height on a window of some height. -/
def statusPosition (windowHeight lineHeight : Int) : Int × Int :=
  (8, windowHeight - lineHeight - 6)

end Vivarium
