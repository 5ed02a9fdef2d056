import Vivarium.World.Basic

/-!
# Creation of worlds

A new world gets obstacles, a blob of food for every column, and animals on random free cells. Who
asks for a world from elsewhere is refused if its grid does not fit into memory; `create` takes it for
granted that it does. The journal names the seed with all of its digits.
-/

namespace Vivarium.World

variable {G : Type} [Source G]

/-- The number of cells for which one obstacle is scattered. -/
def obstacleDensity : Int := 300

/-- The number of animals that a world starts with if none is given. -/
def startPopulation : Int := 80

/-- Drop `count` blobs of food. -/
def addRandomBlobs : (count : Nat) → Sim G Unit
  | 0 => return ()
  | count + 1 => do
    let _ ← addRandomBlob
    addRandomBlobs count

/-- Spawn `count` animals. If there are not enough free cells, stop and leave a warning. -/
def populate : (count : Nat) → Sim G Unit
  | 0 => return ()
  | count + 1 => do
    match ← spawn with
    | some _ => populate count
    | none =>
      let world : World G ← get
      report .warning
        ("[World] Grid full after " ++ toString world.animals.length ++ " animals")

/-- Furnish an empty world: obstacles, food and animals, in this order. The seed is only named in
the journal. -/
def furnish (seed : Option Int) (population : Int) : Sim G Unit := do
  let obstacles ← onLandscape (Landscape.placeObstacles obstacleDensity)
  let world : World G ← get
  addRandomBlobs world.grid.width
  populate population.toNat
  let world : World G ← get
  let seedText :=
    match seed with
    | some seed => toString seed
    | none => "None"
  report .info ("[World] Created " ++ toString world.grid.width ++ "x" ++
    toString world.grid.height ++ " seed=" ++ seedText ++ " obstacles=" ++ toString obstacles ++
    " animals=" ++ toString world.animals.length)

/-- A furnished world of an extent, with a source of random numbers grown from a seed. -/
def create (width height : Int) (seed : Option Int) (rng : G) (population : Int)
    (settings : Settings) : Except Fault (World G) := do
  let (result, world) := (furnish seed population).outcome (← empty width height rng settings)
  result.map fun _ => world

/-- A furnished world of an extent that anyone may ask for. -/
def requestFurnished (width height : Int) (seed : Option Int) (rng : G) (population : Int)
    (settings : Settings) : Except Fault (World G) := do
  Grid.checkExtent width height
  create width height seed rng population settings

/-- An extent that can be had is created. -/
theorem requestFurnished_of_checkExtent {width height : Int}
    (h : Grid.checkExtent width height = .ok ()) (seed : Option Int) (rng : G) (population : Int)
    (settings : Settings) :
    requestFurnished width height seed rng population settings =
      create width height seed rng population settings := by
  rw [requestFurnished, h]
  rfl

end Vivarium.World
