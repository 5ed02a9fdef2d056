import Vivarium.Display.Status
import Vivarium.Display.Surface
import Vivarium.Display.Window
import Vivarium.World.Step

/-!
# The viewer

The viewer shows a world in a window, frame by frame. A frame first takes in what the user did, then
lets a tick pass unless the viewer is paused, and draws. The frame in which the user leaves is still
finished.
-/

namespace Vivarium

/-- What a user can do. -/
inductive Event where
  /-- Closes the window. -/
  | quit
  /-- Presses the space bar, to pause or go on. -/
  | space
  /-- Presses the tabulator key, for a report on the richest animal. -/
  | tab
  /-- Presses the escape key, to leave. -/
  | escape
  /-- Does anything else. -/
  | other
  deriving DecidableEq, Repr

/-- A viewer at work. -/
structure Viewer (G : Type) where
  /-- The world that is shown. -/
  world : World G
  /-- The window in which it is shown. -/
  window : Window
  /-- Whether the world stands still. -/
  paused : Bool := false
  /-- Whether the user wants to go on. -/
  running : Bool := true
  /-- The status lines of the frames so far. -/
  lines : Array String := #[]

namespace Viewer

variable {G : Type} {α : Type}

/-- The viewer for a world, before its window is open. -/
def ofWorld (world : World G) : Viewer G where
  world
  window := Window.ofGrid world.grid

/-- Run a simulation on the world of a viewer. -/
def onWorld (sim : Sim G α) : Attempt (Viewer G) α :=
  sim.onPart fun ⟨world, window, paused, running, lines⟩ =>
    (world, fun world => ⟨world, window, paused, running, lines⟩)

/-- Open the window of a viewer. -/
def openWindow : Attempt (Viewer G) Unit := do
  let viewer : Viewer G ← get
  let window ← viewer.window.opened
  modify fun viewer => { viewer with window }

/-- Take in what the user did. -/
def handle : Event → Attempt (Viewer G) Unit
  | .quit | .escape => modify fun viewer => { viewer with running := false }
  | .space => modify fun viewer => { viewer with paused := !viewer.paused }
  | .tab => onWorld World.reportRichest
  | .other => return ()

/-- What the window shows above the status line. -/
def picture (viewer : Viewer G) : Except Fault Surface := do
  let ground ← Surface.ofGround viewer.world cellPixels
  ground.drawAnimals cellPixels (viewer.world.residents.map (·.2))

/-- Draw the picture. All that is kept of it is the fault if it cannot be drawn. -/
def drawPicture : Attempt (Viewer G) Unit := do
  let viewer : Viewer G ← get
  let _ ← Surface.groundExtent viewer.world.grid viewer.world.settings.maxFood cellPixels

/-- Draw the status line, at a frame rate. -/
def drawStatus (rate : Number) : Attempt (Viewer G) Unit := do
  let viewer : Viewer G ← get
  let stats ← viewer.world.stats
  let line ← (Figures.ofStats stats).text rate viewer.paused
  modify fun viewer => { viewer with lines := viewer.lines.push line }

variable [Source G]

/-- A frame. -/
def frame (rate : Number) (events : List Event) : Attempt (Viewer G) Unit := do
  events.forM handle
  let viewer : Viewer G ← get
  unless viewer.paused do onWorld World.step
  drawPicture
  drawStatus rate

/-- Frames, until the user leaves. When the frames run out the window is closed. -/
def frames (rate : Number) : List (List Event) → Attempt (Viewer G) Unit
  | [] => frame rate [.quit]
  | events :: rest => do
    frame rate events
    let viewer : Viewer G ← get
    if viewer.running then frames rate rest

/-- A run of the viewer, with a report on the world at its end. -/
def run (rate : Number) (events : List (List Event)) : Attempt (Viewer G) Unit := do
  openWindow
  frames rate events
  onWorld World.reportStats

end Viewer

end Vivarium
