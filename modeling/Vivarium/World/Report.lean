import Vivarium.Number.Writing
import Vivarium.Program.Path
import Vivarium.Program.Text
import Vivarium.World.Basic

/-!
# Reports on worlds

The figures of a world at one moment, and the lines of the journal that show them.
-/

namespace Vivarium

/-- The figures of a world. -/
structure Stats where
  /-- The ticks that have begun. -/
  tick : Nat
  /-- The animals in the world. -/
  population : Nat
  /-- The animals born by forks. -/
  births : Nat
  /-- The animals that died. -/
  deaths : Nat
  /-- The food on the ground. -/
  plantMass : Int
  /-- The mean energy of the animals, zero if there are none. -/
  averageEnergy : Double

namespace World

variable {G : Type}

/-- The animals in a world with their numbers, in the order of their turns. -/
def residents (world : World G) : List (Nat × Animal) :=
  world.animals.filterMap fun id => world.roster[id]?.map fun animal => (id, animal)

/-- The energy of all animals in a world together. -/
def totalEnergy (world : World G) : Int :=
  world.residents.foldr (fun resident sum => resident.2.energy + sum) 0

/-- The figures of a world. -/
def stats (world : World G) : Except Fault Stats := do
  let population := world.animals.length
  let averageEnergy ←
    if population = 0 then .ok (.finite 0)
    else Double.ofQuotient world.totalEnergy population
  return {
    tick := world.tick
    population
    births := world.births
    deaths := world.deaths
    plantMass := world.grid.plantMass
    averageEnergy }

/-- Report the figures of the world. -/
def reportStats : Sim G Unit := do
  let world : World G ← get
  let stats ← world.stats
  report .info ("[Run] tick=" ++ toString stats.tick ++
    " population=" ++ toString stats.population ++ " births=" ++ toString stats.births ++
    " deaths=" ++ toString stats.deaths ++ " plants=" ++ toString stats.plantMass ++
    " avg_energy=" ++ stats.averageEnergy.fixedText 1)

/-- The richest of some animals, the first of equals. -/
def richestOf : Animal → List Animal → Animal
  | best, [] => best
  | best, animal :: rest =>
    richestOf (if best.energy < animal.energy then animal else best) rest

/-- The richest animal of a world, if there is any. -/
def richest (world : World G) : Option Animal :=
  match world.residents.map (·.2) with
  | [] => none
  | animal :: rest => some (richestOf animal rest)

/-- Report the richest animal with its body and program, if there is any. -/
def reportRichest : Sim G Unit := do
  let world : World G ← get
  match world.richest with
  | none => return ()
  | some best =>
    report .info ("[Run] Richest animal at (" ++ toString best.cell.x ++ ", " ++
      toString best.cell.y ++ ") energy=" ++ toString best.energy ++
      " nodes=" ++ toString best.program.nodeCount ++ ":\n" ++
      "\n".intercalate best.body.rows ++ "\n" ++ best.program.layout 0)

end World

end Vivarium
