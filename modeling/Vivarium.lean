import Vivarium.Number.Reading
import Vivarium.Number.Writing
import Vivarium.Random.Twister
import Vivarium.Text.UpperCase
import Vivarium.Text.Quoted
import Vivarium.Program.Path
import Vivarium.Program.Text
import Vivarium.Program.Evaluation
import Vivarium.Sprite.Shape
import Vivarium.Evolution.Inheritance
import Vivarium.Terrain.Blob
import Vivarium.Terrain.Obstacles
import Vivarium.World.Step
import Vivarium.World.Creation
import Vivarium.World.Report
import Vivarium.Display.Surface
import Vivarium.Display.Status
import Vivarium.Session.Options
import Vivarium.Main
import Vivarium.Proofs.World.Homogeneity
import Vivarium.Proofs.World.Endurance
import Vivarium.Proofs.World.Balance
import Vivarium.Proofs.World.Lineage
import Vivarium.Proofs.Evolution.Wrapping
import Vivarium.Proofs.Terrain.Furnishing
import Vivarium.Proofs.Program.Flattening
import Vivarium.Proofs.Evolution.Duplication
import Vivarium.Proofs.World.Bodies
import Vivarium.Proofs.World.Alteration
import Vivarium.Proofs.World.Census
import Vivarium.Proofs.World.Waiting
import Vivarium.Proofs.Evolution.Exactness
import Vivarium.Proofs.World.Population
import Vivarium.Proofs.World.Resilience
import Vivarium.Proofs.World.Independence
import Vivarium.Proofs.World.Striking
import Vivarium.Proofs.Evolution.Locality
import Vivarium.Proofs.World.Forking
import Vivarium.Proofs.World.Finality
import Vivarium.Proofs.Evolution.Reservoir
import Vivarium.Proofs.Number.Finiteness
import Vivarium.Proofs.Number.SquareRoot
import Vivarium.Proofs.Terrain.Disk
import Vivarium.Proofs.Terrain.Sowing
import Vivarium.Proofs.Terrain.Clusters
import Vivarium.Proofs.Program.Readability
import Vivarium.Proofs.Program.Layout
import Vivarium.Proofs.Sprite.Rotation
import Vivarium.Proofs.World.Turning
import Vivarium.Proofs.World.Stepping
import Vivarium.Proofs.Program.Addressing
import Vivarium.Proofs.Number.Nearest
import Vivarium.Proofs.Number.Range
import Vivarium.Proofs.Terrain.Shape
