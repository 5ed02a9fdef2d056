import Vivarium.Proofs.Attempt
import Vivarium.Sprite.Shape

/-!
# Cells of a sprite

A sprite covers the cells that are there and on. On sprites that reach over all cells of a body,
reading a cell tells whether it is covered, and switching a cell leaves the extent of the sprite and
every other cell as they were.
-/

namespace Vivarium.Sprite

/-- Whether the cell of a row and a column is there and on. -/
def covers (sprite : Sprite) (cell : Nat × Nat) : Bool :=
  (sprite.cells[cell.1]?.bind (·[cell.2]?)).getD false

/-- Whether a row and a column are those of a body. -/
def OnBody (cell : Nat × Nat) : Prop := cell.1 < side ∧ cell.2 < side

/-- The mirror image of a cell. -/
def mirrored (cell : Nat × Nat) : Nat × Nat := (cell.1, side - 1 - cell.2)

/-- The lengths of the rows of a sprite. -/
def extent (sprite : Sprite) : List Nat := sprite.cells.map List.length

/-- Whether all cells of a body are there. -/
structure Spacious (sprite : Sprite) : Prop where
  rows : side ≤ sprite.extent.length
  columns : ∀ length ∈ sprite.extent.take side, side ≤ length

/-- Whether all cells of a body are there, and no row is shorter than those of a body. -/
structure Roomy (sprite : Sprite) : Prop where
  rows : side ≤ sprite.extent.length
  columns : ∀ length ∈ sprite.extent, side ≤ length

/-- Whether a sprite has the rows and columns of a body. -/
structure Square (sprite : Sprite) : Prop where
  rows : sprite.cells.length = side
  columns : ∀ row ∈ sprite.cells, row.length = side

variable {sprite other : Sprite} {cell : Nat × Nat}

/-! ## Extents -/

/-- The mirror image of a cell of a body is a cell of a body. -/
theorem OnBody.mirrored (h : OnBody cell) : OnBody (mirrored cell) := by
  simp only [OnBody, Sprite.mirrored, side] at *
  omega

/-- A cell of a body is the mirror image of its mirror image. -/
theorem OnBody.mirrored_mirrored (h : OnBody cell) :
    Sprite.mirrored (Sprite.mirrored cell) = cell := by
  obtain ⟨row, column⟩ := cell
  have inside : column < side := h.2
  exact Prod.ext rfl (Nat.sub_sub_self (Nat.le_sub_one_of_lt inside))

/-- The window consists of the cells of a body. -/
theorem mem_window_iff : cell ∈ window ↔ OnBody cell := by
  obtain ⟨row, column⟩ := cell
  simp [window, OnBody]

/-- The corners are cells of a body. -/
theorem onBody_of_mem_corners (h : cell ∈ corners) : OnBody cell :=
  mem_window_iff.mp ((by decide : ∀ corner ∈ corners, corner ∈ window) cell h)

/-- Where no row is too short, those of a body are long enough. -/
theorem Roomy.spacious (h : sprite.Roomy) : sprite.Spacious :=
  ⟨h.rows, fun length hl => h.columns length (List.mem_of_mem_take hl)⟩

/-- What has the rows and columns of a body has enough of them. -/
theorem Square.roomy (h : sprite.Square) : sprite.Roomy where
  rows := by
    rw [extent, List.length_map]
    exact Nat.le_of_eq h.rows.symm
  columns length hl := by
    obtain ⟨row, hr, rfl⟩ := List.mem_map.mp hl
    exact Nat.le_of_eq (h.columns row hr).symm

/-- Whether a sprite is square can be told by the lengths of the rows. -/
theorem Square.of_extent_eq (h : sprite.Square) (same : other.extent = sprite.extent) :
    other.Square where
  rows := by
    have lengths := congrArg List.length same
    rw [extent, extent, List.length_map, List.length_map] at lengths
    rw [lengths, h.rows]
  columns row hr := by
    have listed : row.length ∈ sprite.extent := same ▸ List.mem_map_of_mem hr
    obtain ⟨old, ho, length⟩ := List.mem_map.mp listed
    rw [← length, h.columns old ho]

/-- The standard shape is square. -/
theorem square_standard : standard.Square := ⟨rfl, by decide⟩

/-- Whether there is room for a body can be told by the lengths of the rows. -/
theorem Spacious.of_extent_eq (h : sprite.Spacious) (same : other.extent = sprite.extent) :
    other.Spacious :=
  ⟨same ▸ h.rows, same ▸ h.columns⟩

/-- Whether no row is too short can be told by the lengths of the rows. -/
theorem Roomy.of_extent_eq (h : sprite.Roomy) (same : other.extent = sprite.extent) :
    other.Roomy :=
  ⟨same ▸ h.rows, same ▸ h.columns⟩

/-! ## Reading -/

/-- The cells of a row that can be read are those that are there. -/
theorem rowIsOn_eq_ok_iff {row : List Bool} {column : Nat} {on : Bool} :
    rowIsOn row column = .ok on ↔ row[column]? = some on := by
  rw [rowIsOn]
  cases row[column]? with
  | none => exact iff_of_false nofun nofun
  | some read => rw [Except.ok.injEq, Option.some.injEq]

/-- A cell that can be read is in one of the rows. -/
theorem lt_length_of_isOn {row column : Nat} {on : Bool} (h : sprite.isOn row column = .ok on) :
    row < sprite.cells.length := by
  rw [isOn] at h
  cases there : sprite.cells[row]? with
  | none => rw [there] at h; cases h
  | some cells => exact (List.getElem?_eq_some_iff.mp there).1

/-- A covered cell is there. -/
theorem exists_of_covers (h : sprite.covers cell = true) :
    ∃ row, sprite.cells[cell.1]? = some row ∧ row[cell.2]? = some true := by
  rcases Option.getD_eq_iff.mp h with there | ⟨-, off⟩
  · exact Option.bind_eq_some_iff.mp there
  · contradiction

namespace Spacious

variable (h : sprite.Spacious)
include h

/-- The cells of a body are there. -/
theorem exists_getElem (hc : OnBody cell) :
    ∃ hr : cell.1 < sprite.cells.length, cell.2 < sprite.cells[cell.1].length := by
  have below : cell.1 < sprite.extent.length := Nat.lt_of_lt_of_le hc.1 h.rows
  have inside : cell.1 < sprite.cells.length := by rwa [extent, List.length_map] at below
  have listed : sprite.extent[cell.1] ∈ sprite.extent.take side :=
    List.mem_take_iff_getElem.mpr ⟨cell.1, Nat.lt_min.mpr ⟨hc.1, below⟩, rfl⟩
  have long := h.columns _ listed
  simp only [extent, List.getElem_map] at long
  exact ⟨inside, Nat.lt_of_lt_of_le hc.2 long⟩

/-- What is read of a cell of a body is whether it is covered. -/
theorem isOn_eq (hc : OnBody cell) : sprite.isOn cell.1 cell.2 = .ok (sprite.covers cell) := by
  obtain ⟨inside, within⟩ := h.exists_getElem hc
  simp only [isOn, covers, List.getElem?_eq_getElem inside,
    rowIsOn_eq_ok_iff.mpr (List.getElem?_eq_getElem within), List.getElem?_eq_getElem within,
    Option.bind_some, Option.getD_some]

end Spacious

/-! ## Switching -/

/-- The sprite with a cell switched on or off. -/
def put (sprite : Sprite) (cell : Nat × Nat) (on : Bool) : Sprite :=
  ⟨sprite.cells.modify cell.1 (·.set cell.2 on)⟩

/-- A switch leaves the lengths of the rows. -/
theorem extent_put (sprite : Sprite) (cell : Nat × Nat) (on : Bool) :
    (sprite.put cell on).extent = sprite.extent := by
  apply List.ext_getElem
  · simp [extent, put]
  · intro i _ _
    simp only [extent, put, List.getElem_map, List.getElem_modify]
    split <;> simp

namespace Spacious

variable (h : sprite.Spacious)
include h

/-- A switch leaves the cells of a body there. -/
theorem put (cell : Nat × Nat) (on : Bool) : (sprite.put cell on).Spacious :=
  h.of_extent_eq (extent_put sprite cell on)

/-- A switch is of one cell. -/
theorem covers_put (hc : OnBody cell) (on : Bool) (other : Nat × Nat) :
    (sprite.put cell on).covers other = if other = cell then on else sprite.covers other := by
  obtain ⟨inside, within⟩ := h.exists_getElem hc
  obtain ⟨row, column⟩ := cell
  obtain ⟨row', column'⟩ := other
  by_cases same : row = row'
  · subst same
    rw [covers, Sprite.put, List.getElem?_modify_eq, List.getElem?_eq_getElem inside]
    by_cases here : column = column'
    · subst here
      simp [List.getElem?_set_self within]
    · simp [covers, List.getElem?_set_ne here, List.getElem?_eq_getElem inside, Ne.symm here]
  · simp [covers, Sprite.put, List.getElem?_modify_ne _ _ same, Ne.symm same]

/-- Switching a cell of a body is all that a switch does. -/
theorem outcome_switch (hc : OnBody cell) {row column : Int} (hr : row = cell.1)
    (hs : column = cell.2) (on : Bool) :
    (switch row column on).outcome sprite = (.ok (), sprite.put cell on) := by
  obtain ⟨inside, within⟩ := h.exists_getElem hc
  have same : sprite.cells.set cell.1 (sprite.cells[cell.1].set cell.2 on) =
      sprite.cells.modify cell.1 (·.set cell.2 on) := by
    rw [List.modify_eq_set, List.getElem?_eq_getElem inside, Option.getD_some]
  simp only [Attempt.outcome, switch, hr, hs, place?_natCast inside, place?_natCast within,
    Fin.getElem_fin, Sprite.put, same]

end Spacious

/-- The sprite with several cells switched on or off. -/
def putAll (cells : List (Nat × Nat)) (on : Bool) (sprite : Sprite) : Sprite :=
  cells.foldl (·.put · on) sprite

/-- Switches leave the lengths of the rows. -/
theorem extent_putAll (cells : List (Nat × Nat)) (on : Bool) (sprite : Sprite) :
    (putAll cells on sprite).extent = sprite.extent := by
  induction cells generalizing sprite with
  | nil => rfl
  | cons cell cells ih => exact (ih _).trans (extent_put sprite cell on)

namespace Spacious

/-- Switches are of the cells that they are of. -/
theorem covers_putAll (h : sprite.Spacious) {cells : List (Nat × Nat)}
    (hc : ∀ cell ∈ cells, OnBody cell) (on : Bool) (other : Nat × Nat) :
    (putAll cells on sprite).covers other = if other ∈ cells then on else sprite.covers other := by
  induction cells generalizing sprite with
  | nil => rfl
  | cons cell cells ih =>
    rw [List.forall_mem_cons] at hc
    rw [putAll, List.foldl_cons, ← putAll, ih (h.put cell on) hc.2, h.covers_put hc.1]
    by_cases later : other ∈ cells
    · rw [if_pos later, if_pos (List.mem_cons_of_mem _ later)]
    · simp only [later, List.mem_cons, or_false, if_false]

/-- Several switches in a row are all made. -/
theorem outcome_switches (h : sprite.Spacious) {cells : List (Nat × Nat)}
    (hc : ∀ cell ∈ cells, OnBody cell) (on : Bool) :
    (cells.forM fun cell => switch cell.1 cell.2 on : Attempt Sprite Unit).outcome sprite =
      (.ok (), putAll cells on sprite) := by
  induction cells generalizing sprite with
  | nil => rfl
  | cons cell cells ih =>
    rw [List.forall_mem_cons] at hc
    rw [List.forM_eq_forM, List.forM_cons,
      Attempt.outcome_bind_of_ok (h.outcome_switch hc.1 rfl rfl on)]
    exact ih (h.put cell on) hc.2

variable (h : sprite.Spacious)
include h

/-- Clearing corners is switching them off. -/
theorem outcome_clearCorners :
    clearCorners.outcome sprite = (.ok (), putAll corners false sprite) :=
  h.outcome_switches (fun _ => onBody_of_mem_corners) false

/-- A mirrored switch is one of a cell and of its mirror image. -/
theorem outcome_switchMirrored (hc : OnBody cell) (on : Bool) :
    (switchMirrored cell.1 cell.2 on).outcome sprite =
      (.ok (), putAll [cell, mirrored cell] on sprite) := by
  have opposite : (side : Int) - 1 - cell.2 = (mirrored cell).2 := by
    simp only [OnBody, mirrored, side] at *
    omega
  rw [switchMirrored, Attempt.outcome_bind_of_ok (h.outcome_switch hc rfl rfl on)]
  exact (h.put cell on).outcome_switch hc.mirrored rfl opposite on

end Spacious

end Vivarium.Sprite
