import Vivarium.Session.Headless
import Vivarium.Session.Options
import Vivarium.Session.Viewer
import Vivarium.Text.UpperCase
import Vivarium.World.Creation

/-!
# Sessions

A session creates a world from its options and runs it without a window or in the viewer. Everything
that was reported and shown up to a fault is kept. An option that was left blank is a fault only when
its value is needed.
-/

namespace Vivarium

/-- What a session leaves behind. -/
structure SessionRecord where
  /-- The entries of the journal that are shown at the level asked for. -/
  entries : List Entry := []
  /-- The window, if one was asked for. -/
  window : Option Window := none
  /-- The status lines that were shown on it. -/
  lines : List String := []
  /-- The fault that ended the session, if any. -/
  fault : Option Fault := none

/-- The level of a session, whose name may be given in small letters. -/
def Options.level (options : Options) : Except Fault Level := do
  let name := Text.upperCase (← options.logLevel.get .blankLevel)
  match Level.ofName? name with
  | some level => .ok level
  | none => .error (.unknownLevel name)

/-- The frame rate that the viewer aims at. -/
def frameRate : Number := .double (.finite 60)

/-- The fault in a result, if it is one. -/
def faultOf {α : Type} : Except Fault α → Option Fault
  | .ok _ => none
  | .error fault => some fault

variable {G : Type} [Source G]

/-- The entries of a world's journal that are shown at a level. -/
def World.shownEntries (world : World G) (level : Level) : List Entry :=
  world.journal.toList.filter (·.isShownAt level)

/-- The world of a session. -/
def Options.world (options : Options) (rng : G) : Except Fault (World G) := do
  let seed ← options.seed.mapM (Given.get .blankSeed)
  let height ← Grid.extent (← options.height.get .blankCount)
  let width ← Grid.extent (← options.width.get .blankCount)
  World.requestFurnished width height seed rng World.startPopulation {}

/-- The run of a session without a window. The interval between reports is not needed before the
first tick has passed. -/
def Options.runHeadless (options : Options) : Sim G Unit := do
  let ticks ← options.ticks.get .blankCount
  match options.reportEvery with
  | .value interval => World.runHeadless ticks interval
  | .blank =>
    if 0 < ticks then
      World.step
      throw Fault.blankInterval
    else World.runHeadless ticks 0

/-- Run a session. The viewer takes in the events of one frame after the other. -/
def Options.run (options : Options) (rng : G) (events : List (List Event)) : SessionRecord :=
  match options.level with
  | .error fault => { fault := some fault }
  | .ok level =>
    match options.world rng with
    | .error fault => { fault := some fault }
    | .ok world =>
      if options.headless then
        let (result, world) := options.runHeadless.outcome world
        { entries := world.shownEntries level, fault := faultOf result }
      else
        let (result, viewer) := (Viewer.run frameRate events).outcome (Viewer.ofWorld world)
        { entries := viewer.world.shownEntries level
          window := some viewer.window
          lines := viewer.lines.toList
          fault := faultOf result }

end Vivarium
