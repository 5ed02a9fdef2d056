import Vivarium.Attempt
import Vivarium.Number.Size
import Vivarium.Position
import Vivarium.Terrain.Cell

/-!
# The grid

The ground of a world is a grid of cells, addressed by column and row. A cell holds an amount of
food, or `obstacle` where nothing can stand or grow. Cells are numbers of sixteen bits: storing a
value outside their range is a fault, and no value is ever cut down to them. The grid is a torus for
those who wrap their coordinates first. Extents and coordinates that come from elsewhere have to be
words.
-/

namespace Vivarium

/-- The value of cells that nothing can enter. -/
def obstacle : Int := -1

/-- A rectangular grid of cells, row by row from the top. -/
structure Grid where
  /-- The number of columns. -/
  width : Nat
  /-- The number of rows. -/
  height : Nat
  /-- The cells, each row from left to right. -/
  cells : Vector Int (height * width)

/-- The place of a column and row among the cells of a grid. -/
theorem Grid.place_lt {width height x y : Nat} (hx : x < width) (hy : y < height) :
    y * width + x < height * width := by
  calc
    y * width + x < y * width + width := by omega
    _ = (y + 1) * width := by rw [Nat.add_mul, Nat.one_mul]
    _ ≤ height * width := Nat.mul_le_mul_right width hy

/-- Different columns and rows have different places among the cells. -/
theorem Grid.place_injective {width x y x' y' : Nat} (hx : x < width) (hx' : x' < width)
    (h : y * width + x = y' * width + x') : x = x' ∧ y = y' := by
  have hy : y = y' := by
    have hdiv := congrArg (· / width) h
    simpa only [Nat.mul_comm _ width, Nat.mul_add_div (by omega : 0 < width),
      Nat.div_eq_of_lt hx, Nat.div_eq_of_lt hx', Nat.add_zero] using hdiv
  subst hy
  exact ⟨by omega, rfl⟩

/-- The coordinate on a torus of `size` columns or rows that a coordinate of the plane falls on. -/
def wrapAround (size : Nat) (i : Int) : Except Fault Int :=
  if size = 0 then .error .moduloByZero else .ok (i % size)

/-- A coordinate on a nonempty torus lies among its columns or rows. -/
theorem wrapAround_of_pos {size : Nat} (h : 0 < size) (i : Int) :
    wrapAround size i = .ok (i % size) ∧ 0 ≤ i % size ∧ i % size < size := by
  refine ⟨if_neg (by omega), Int.emod_nonneg _ (by omega), Int.emod_lt_of_pos _ (by omega)⟩

/-- A coordinate on the torus is where it is. -/
theorem wrapAround_of_lt {size : Nat} {i : Int} (h : 0 ≤ i) (h' : i < size) :
    wrapAround size i = .ok i := by
  rw [wrapAround, if_neg (by omega), Int.emod_eq_of_lt h h']

namespace Grid

/-- The grid without food or obstacles. -/
def empty (width height : Nat) : Grid :=
  ⟨width, height, Vector.replicate _ 0⟩

/-- The empty grid of an extent that may turn out negative. -/
def create (width height : Int) : Except Fault Grid :=
  if width < 0 ∨ height < 0 then .error .negativeExtent
  else .ok (empty width.toNat height.toNat)

/-- The bytes that a cell takes. -/
def cellBytes : Int := 2

/-- The bytes of a grid that are counted so far, with one more extent. An empty extent is passed
over. -/
def countBytes (bytes extent : Int) : Except Fault Int :=
  if extent = 0 then .ok bytes
  else if extent < 0 then .error .negativeExtent
  else if fitsWord (bytes * extent) then .ok (bytes * extent)
  else .error .gridTooLarge

/-- A number of columns or rows, which has to be a word. -/
def extent (n : Int) : Except Fault Int :=
  if fitsWord n then .ok n else .error .extentTooLarge

/-- Refuse an extent that no grid can have. The number of rows is looked at first. -/
def checkExtent (width height : Int) : Except Fault Unit := do
  let height ← extent height
  let width ← extent width
  let bytes ← countBytes (← countBytes cellBytes height) width
  unless width = 0 || height = 0 || bytes < memoryLimit do
    throw (.gridMemory (sizeText bytes.toNat) height width)

instance : Inhabited Grid := ⟨empty 0 0⟩

/-- The value at a column and row of the grid. -/
def value (grid : Grid) (x : Fin grid.width) (y : Fin grid.height) : Int :=
  grid.cells.get ⟨y.val * grid.width + x.val, place_lt x.isLt y.isLt⟩

/-- The grid with the value at a column and row replaced. -/
def update (grid : Grid) (x : Fin grid.width) (y : Fin grid.height) (value : Int) : Grid :=
  { grid with
    cells := grid.cells.set (y.val * grid.width + x.val) value (place_lt x.isLt y.isLt) }

/-- The rows of the grid. -/
def rows (grid : Grid) : List (List Int) :=
  (List.finRange grid.height).map fun y => (List.finRange grid.width).map fun x => grid.value x y

/-- The grid with given rows, whose number of columns is that of the first. Missing cells are
empty. -/
def ofRows (rows : List (List Int)) : Grid :=
  let width := (rows.headD []).length
  ⟨width, rows.length, Vector.ofFn fun i =>
    ((rows[i.val / width]?.bind (·[i.val % width]?)).getD 0)⟩

/-- The fault of a coordinate that cannot even be looked for, if there is one. A number that is a
word without its sign gets further than others. -/
def coordinateFault? (i : Int) : Option Fault :=
  if fitsWord i then none
  else if 0 ≤ i ∧ i < 18446744073709551616 then some .wordOverflow
  else some .coordinateTooLarge

/-- The fault of a cell that is out of bounds. Both coordinates are looked at before they are looked
for, the row always first. -/
def missing (grid : Grid) (cell : Cell) : Fault :=
  match coordinateFault? cell.y <|> coordinateFault? cell.x with
  | some fault => fault
  | none =>
    match place? grid.height cell.y with
    | none => .axisIndex cell.y 0 grid.height
    | some _ => .axisIndex cell.x 1 grid.width

/-- The column and row of a cell that may be out of bounds. Negative positions count from the end. -/
def locate (grid : Grid) (cell : Cell) : Except Fault (Fin grid.width × Fin grid.height) :=
  match place? grid.width cell.x, place? grid.height cell.y with
  | some x, some y => .ok (x, y)
  | _, _ => .error (grid.missing cell)

/-- The value of a cell that may be out of bounds. -/
def read (grid : Grid) (cell : Cell) : Except Fault Int :=
  (grid.locate cell).map fun (x, y) => grid.value x y

/-- Whether a cell can hold a value. -/
def fits (value : Int) : Bool :=
  -32768 ≤ value && value ≤ 32767

/-- The fault of a value that no cell can hold. -/
def overflow (value : Int) : Fault :=
  if fitsWord value then .cellOverflow value else .wordOverflow

/-- The grid with given rows, unless they have a value that no cell can hold. -/
def ofRows? (rows : List (List Int)) : Except Fault Grid :=
  match rows.flatten.find? fun value => !fits value with
  | some value => .error (overflow value)
  | none => .ok (ofRows rows)

/-- Store a value in a cell that may be out of bounds. -/
def store (cell : Cell) (value : Int) : Attempt Grid Unit := fun grid =>
  match grid.locate cell with
  | .ok (x, y) =>
    if fits value then .ok () (grid.update x y value) else .error (overflow value) grid
  | .error fault => .error fault grid

/-- Store one value in every cell. -/
def fill (value : Int) : Attempt Grid Unit := fun grid =>
  if fits value then .ok () { grid with cells := Vector.replicate _ value }
  else .error (overflow value) grid

/-- The cell of the torus that a cell of the plane falls on. -/
def wrap (grid : Grid) (cell : Cell) : Except Fault Cell := do
  let x ← wrapAround grid.width cell.x
  let y ← wrapAround grid.height cell.y
  return ⟨x, y⟩

/-- The cells of the grid with their values, row by row. -/
def contents (grid : Grid) : List (Cell × Int) :=
  if grid.width = 0 then []
  else
    (List.finRange grid.height).flatMap fun y =>
      (List.finRange grid.width).map fun x => (⟨x.val, y.val⟩, grid.value x y)

/-- The food on the whole grid. -/
def plantMass (grid : Grid) : Int :=
  grid.cells.foldl (fun sum cell => if 0 < cell then sum + cell else sum) 0

/-- The number of obstacles on the grid. -/
def obstacleCount (grid : Grid) : Nat :=
  grid.cells.count obstacle

/-- An updated cell has its new value. -/
@[simp] theorem value_update_self (grid : Grid) (x : Fin grid.width) (y : Fin grid.height)
    (value : Int) : (grid.update x y value).value x y = value :=
  Vector.getElem_set_self _

/-- The other cells keep their values. -/
theorem value_update_of_ne (grid : Grid) {x x' : Fin grid.width} {y y' : Fin grid.height}
    (value : Int) (h : x ≠ x' ∨ y ≠ y') :
    (grid.update x y value).value x' y' = grid.value x' y' := by
  refine Vector.getElem_set_ne (place_lt x.isLt y.isLt) (place_lt x'.isLt y'.isLt) fun same => ?_
  obtain ⟨hx, hy⟩ := place_injective x.isLt x'.isLt same
  rcases h with h | h
  · exact h (Fin.ext hx)
  · exact h (Fin.ext hy)

/-- A cell on the grid is at its column and row. -/
theorem locate_natCast (grid : Grid) (x : Fin grid.width) (y : Fin grid.height) :
    grid.locate ⟨x.val, y.val⟩ = .ok (x, y) := by
  simp only [locate, place?_natCast x.isLt, place?_natCast y.isLt]

/-- A cell on the grid is read as its value. -/
theorem read_natCast (grid : Grid) (x : Fin grid.width) (y : Fin grid.height) :
    grid.read ⟨x.val, y.val⟩ = .ok (grid.value x y) := by
  rw [read, locate_natCast]
  rfl

/-- A value that fits is stored in its cell. -/
theorem outcome_store_natCast (grid : Grid) (x : Fin grid.width) (y : Fin grid.height) {value : Int}
    (h : fits value) :
    (store ⟨x.val, y.val⟩ value).outcome grid = (.ok (), grid.update x y value) := by
  simp only [Attempt.outcome, store, locate_natCast, h, if_true]

/-- A positive extent multiplies the bytes if they can still be counted. -/
theorem countBytes_of_fits {bytes extent : Int} (h : 0 < extent) (fits : fitsWord (bytes * extent)) :
    countBytes bytes extent = .ok (bytes * extent) := by
  rw [countBytes, if_neg (by omega), if_neg (by omega), if_pos fits]

/-- Positive extents can be had if there is room for their cells. -/
theorem checkExtent_of_pos {width height : Int} (hw : 0 < width) (hh : 0 < height)
    (h : cellBytes * height * width < memoryLimit) : checkExtent width height = .ok () := by
  have column : 1 ≤ cellBytes * height := by simp only [cellBytes]; omega
  have tall : cellBytes * height ≤ cellBytes * height * width := by
    have := Int.mul_le_mul_of_nonneg_left (show 1 ≤ width from hw) (Int.le_trans (by decide) column)
    rwa [Int.mul_one] at this
  have wide : width ≤ cellBytes * height * width := by
    have := Int.mul_le_mul_of_nonneg_right column (Int.le_of_lt hw)
    rwa [Int.one_mul] at this
  have limit : memoryLimit < 9223372036854775807 := by decide
  have fitsHeight : fitsWord height := fitsWord_iff.mpr (by simp only [cellBytes] at *; omega)
  have fitsWidth : fitsWord width := fitsWord_iff.mpr (by omega)
  have first := countBytes_of_fits hh (fitsWord_iff.mpr (by omega) : fitsWord (cellBytes * height))
  have second := countBytes_of_fits hw
    (fitsWord_iff.mpr (by omega) : fitsWord (cellBytes * height * width))
  simp [checkExtent, extent, fitsHeight, fitsWidth, first, second, h, bind, Except.bind, pure,
    Except.pure]
/-- Whether a cell can hold a value is a matter of its bounds. -/
theorem fits_iff {value : Int} : fits value ↔ -32768 ≤ value ∧ value ≤ 32767 := by
  simp only [fits, Bool.and_eq_true, decide_eq_true_eq]

end Grid

end Vivarium
