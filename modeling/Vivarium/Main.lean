import Vivarium.Random.Twister
import Vivarium.Session.Run

/-!
# The program

Runs a session from the command line. The journal goes to standard error. Standard input stands for
the user of the viewer: each line holds the events of one frame, and each frame answers with its
status line on standard output.
-/

namespace Vivarium

/-- The help on the options. -/
def usage : String :=
  "usage: vivarium [--help] [--seed SEED] [--width WIDTH] [--height HEIGHT] [--headless] " ++
    "[--ticks TICKS] [--report-every REPORT_EVERY] [--log-level LOG_LEVEL]"

/-- The event of a word. -/
def Event.ofName (name : String) : Event :=
  if name = "quit" then .quit
  else if name = "space" then .space
  else if name = "tab" then .tab
  else if name = "escape" then .escape
  else .other

/-- Read the events of a frame from each line of a text. The line break at its end starts no other
frame. -/
def Event.framesOf (text : String) : List (List Event) :=
  let lines := text.splitOn "\n"
  let lines := if lines.getLastD "" = "" then lines.dropLast else lines
  lines.map fun line => ((line.splitOn " ").filter (· ≠ "")).map Event.ofName

end Vivarium

open Vivarium

/-- Run a session from the command line. -/
def main (arguments : List String) : IO UInt32 := do
  match Options.ofArguments arguments with
  | .error .helpWanted =>
    IO.println usage
    return 0
  | .error fault =>
    IO.eprintln usage
    IO.eprintln ("vivarium: error: " ++ fault.message)
    return 2
  | .ok options =>
    let seed ←
      match options.seed with
      | some (.value seed) => pure seed
      | _ => pure ((← IO.rand 0 4611686018427387904) : Int)
    let frames ←
      if options.headless then pure []
      else pure (Event.framesOf (← (← IO.getStdin).readToEnd))
    let record := options.run (Generator.ofSeed seed) frames
    for entry in record.entries do
      IO.eprintln entry.line
    for line in record.lines do
      IO.println line
    match record.fault with
    | none => return 0
    | some fault =>
      IO.eprintln fault.message
      return 1
