import Mathlib.Logic.Function.Iterate
import Vivarium.Proofs.Sprite.Flood

/-!
# Rotations

A quarter turn takes every cell of a body to another one, and four of them take it back. On sprites
with the rows and columns of a body, turns add up, and they leave the number of covered cells and
whether these are connected as they were. A turn of any other sprite comes to the sprite of a body
or to a fault. Then turns add up as well, unless they only together bring the sprite back to where
it was, for this is not cut down to a body.
-/

namespace Vivarium.Sprite

/-- The cell to which a quarter turn takes a cell. -/
def destination (cell : Nat × Nat) : Nat × Nat := (cell.2, side - 1 - cell.1)

/-- The cell from which a quarter turn takes a cell. -/
def origin (cell : Nat × Nat) : Nat × Nat := (side - 1 - cell.2, cell.1)

/-- The sprite of a body that covers what a quarter turn takes there. -/
def quarter (sprite : Sprite) : Sprite :=
  ⟨(List.range side).map fun row => (List.range side).map fun column =>
    sprite.covers (origin (row, column))⟩

variable {sprite other : Sprite} {cell cell' : Nat × Nat}

/-! ## Cells -/

/-- A cell of a body comes from a cell of a body. -/
theorem OnBody.origin (h : OnBody cell) : OnBody (origin cell) := by
  simp only [OnBody, Sprite.origin, side] at *
  omega

/-- A cell of a body is taken to a cell of a body. -/
theorem OnBody.destination (h : OnBody cell) : OnBody (destination cell) := by
  simp only [OnBody, Sprite.destination, side] at *
  omega

/-- A cell of a body is taken back to where it came from. -/
theorem OnBody.destination_origin (h : OnBody cell) :
    Sprite.destination (Sprite.origin cell) = cell :=
  Prod.ext rfl (Nat.sub_sub_self (Nat.le_sub_one_of_lt h.2))

/-- A cell of a body comes from where it was taken. -/
theorem OnBody.origin_destination (h : OnBody cell) :
    Sprite.origin (Sprite.destination cell) = cell :=
  Prod.ext (Nat.sub_sub_self (Nat.le_sub_one_of_lt h.1)) rfl

/-- Four quarter turns take a cell of a body around. -/
theorem OnBody.origin_four (h : OnBody cell) :
    Sprite.origin (Sprite.origin (Sprite.origin (Sprite.origin cell))) = cell := by
  simp only [OnBody, Sprite.origin, side, Prod.ext_iff] at *
  omega

/-- Cells of a body that touch are taken to cells that touch. -/
theorem Touching.destination (h : Touching cell cell') (hc : OnBody cell) (hc' : OnBody cell') :
    Touching (Sprite.destination cell) (Sprite.destination cell') := by
  simp only [Touching, OnBody, Sprite.destination, side] at *
  omega

/-! ## Sprites of a body -/

/-- What a sprite of a body covers are cells of a body. -/
theorem Square.onBody_of_covers (h : sprite.Square) (hc : sprite.covers cell = true) :
    OnBody cell := by
  obtain ⟨row, hr, on⟩ := exists_of_covers hc
  obtain ⟨inside, rfl⟩ := List.getElem?_eq_some_iff.mp hr
  obtain ⟨within, -⟩ := List.getElem?_eq_some_iff.mp on
  rw [h.rows] at inside
  rw [h.columns _ (List.getElem_mem _)] at within
  exact ⟨inside, within⟩

/-- A cell that is there is covered if it is on. -/
theorem covers_eq_getElem {row column : Nat} (hr : row < sprite.cells.length)
    (hc : column < sprite.cells[row].length) :
    sprite.covers (row, column) = sprite.cells[row][column] := by
  rw [covers, List.getElem?_eq_getElem hr, Option.bind_some, List.getElem?_eq_getElem hc,
    Option.getD_some]

/-- Sprites of a body that cover the same cells are the same. -/
theorem Square.ext (h : sprite.Square) (h' : other.Square)
    (same : ∀ cell, OnBody cell → sprite.covers cell = other.covers cell) : sprite = other := by
  have cells : sprite.cells = other.cells := by
    refine List.ext_getElem (h.rows.trans h'.rows.symm) fun row hr hr' => ?_
    have columns := h.columns _ (List.getElem_mem hr)
    have columns' := h'.columns _ (List.getElem_mem hr')
    refine List.ext_getElem (columns.trans columns'.symm) fun column hc hc' => ?_
    rw [← covers_eq_getElem hr hc, ← covers_eq_getElem hr' hc']
    exact same (row, column) ⟨h.rows ▸ hr, columns ▸ hc⟩
  exact congrArg Sprite.mk cells

/-- A quarter turn makes a sprite of a body. -/
theorem square_quarter (sprite : Sprite) : sprite.quarter.Square where
  rows := by rw [quarter, List.length_map, List.length_range]
  columns row hr := by
    obtain ⟨_, -, rfl⟩ := List.mem_map.mp hr
    rw [List.length_map, List.length_range]

/-- A cell of a turned sprite is covered if it comes from a covered cell. -/
theorem covers_quarter (sprite : Sprite) (h : OnBody cell) :
    sprite.quarter.covers cell = sprite.covers (origin cell) := by
  obtain ⟨row, column⟩ := cell
  have inside : row < side := h.1
  have within : column < side := h.2
  simp [covers, quarter, inside, within]

/-- Four quarter turns of a sprite of a body are none. -/
theorem Square.iterate_four (h : sprite.Square) : quarter^[4] sprite = sprite := by
  refine (square_quarter _).ext h fun cell hc => ?_
  calc sprite.quarter.quarter.quarter.quarter.covers cell
      = sprite.quarter.quarter.quarter.covers (origin cell) := covers_quarter _ hc
    _ = sprite.quarter.quarter.covers (origin (origin cell)) := covers_quarter _ hc.origin
    _ = sprite.quarter.covers (origin (origin (origin cell))) :=
        covers_quarter _ hc.origin.origin
    _ = sprite.covers (origin (origin (origin (origin cell)))) :=
        covers_quarter _ hc.origin.origin.origin
    _ = sprite.covers cell := by rw [hc.origin_four]

/-- Any number of quarter turns of a sprite of a body makes a sprite of a body. -/
theorem Square.iterate (h : sprite.Square) (n : Nat) : (quarter^[n] sprite).Square := by
  cases n with
  | zero => exact h
  | succ n =>
    rw [Function.iterate_succ_apply']
    exact square_quarter _

/-! ## What a turn keeps -/

/-- The covered cells of a turned sprite are those to which the covered cells are taken. -/
theorem Square.perm_covered_quarter (h : sprite.Square) :
    sprite.quarter.covered.Perm (sprite.covered.map destination) := by
  have onBody {cell : Nat × Nat} (hc : cell ∈ sprite.covered) : OnBody cell :=
    h.onBody_of_covers (mem_covered_iff.mp hc)
  have nodup : (sprite.covered.map destination).Nodup :=
    (nodup_covered sprite).map_on fun a ha b hb same => by
      rw [← (onBody ha).origin_destination, same, (onBody hb).origin_destination]
  refine (List.perm_ext_iff_of_nodup (nodup_covered _) nodup).mpr fun cell => ?_
  rw [mem_covered_iff, List.mem_map]
  constructor
  · intro hc
    have hb := (square_quarter sprite).onBody_of_covers hc
    rw [covers_quarter sprite hb] at hc
    exact ⟨origin cell, mem_covered_iff.mpr hc, hb.destination_origin⟩
  · rintro ⟨source, hs, rfl⟩
    rw [covers_quarter sprite (onBody hs).destination, (onBody hs).origin_destination]
    exact mem_covered_iff.mp hs

/-- A quarter turn keeps the number of covered cells. -/
theorem Square.count_quarter (h : sprite.Square) : sprite.quarter.count = sprite.count := by
  rw [← length_covered, ← length_covered, h.perm_covered_quarter.length_eq, List.length_map]

/-- Where a covered cell of a body is taken, a cell is covered. -/
theorem Lit.destination (h : sprite.Lit cell) : sprite.quarter.Lit (destination cell) := by
  refine ⟨h.1.destination, ?_⟩
  rw [covers_quarter sprite h.1.destination, h.1.origin_destination]
  exact h.2

/-- A covered cell of a turned sprite comes from a covered cell. -/
theorem Lit.origin (h : sprite.quarter.Lit cell) : sprite.Lit (origin cell) :=
  ⟨h.1.origin, covers_quarter sprite h.1 ▸ h.2⟩

/-- Linked cells are taken to linked cells. -/
theorem Linked.destination (h : sprite.Linked cell cell') :
    sprite.quarter.Linked (destination cell) (destination cell') :=
  ⟨h.1.destination, h.2.1.destination, h.2.2.destination h.1.1 h.2.1.1⟩

/-- A connected sprite is connected after a quarter turn. -/
theorem Connected.quarter (h : sprite.Connected) : sprite.quarter.Connected where
  some_lit := by
    obtain ⟨cell, lit⟩ := h.some_lit
    exact ⟨destination cell, lit.destination⟩
  joined cell cell' lit lit' := by
    have path := h.joined _ _ lit.origin lit'.origin
    rw [← lit.1.destination_origin, ← lit'.1.destination_origin]
    exact path.lift Sprite.destination fun _ _ => Linked.destination
  inside _ := (square_quarter sprite).onBody_of_covers

/-- A sprite of a body is connected after a quarter turn just if it is connected. -/
theorem Square.connected_quarter_iff (h : sprite.Square) :
    sprite.quarter.Connected ↔ sprite.Connected := by
  refine ⟨fun connected => ?_, Connected.quarter⟩
  have around := connected.quarter.quarter.quarter
  change (Sprite.quarter^[4] sprite).Connected at around
  rwa [h.iterate_four] at around

/-- A quarter turn keeps what is told of connectedness. -/
theorem Square.isConnected_quarter (h : sprite.Square) :
    sprite.quarter.isConnected = sprite.isConnected := by
  obtain ⟨told, outcome, told_iff⟩ := h.roomy.spacious.exists_isConnected
  obtain ⟨told', outcome', told'_iff⟩ := (square_quarter sprite).roomy.spacious.exists_isConnected
  have same : told' = told :=
    Bool.eq_iff_iff.mpr (told'_iff.trans (h.connected_quarter_iff.trans told_iff.symm))
  rw [outcome, outcome', same]

/-- Any number of quarter turns keeps the number of covered cells and what is told of
connectedness. -/
theorem Square.iterate_keeps (h : sprite.Square) (n : Nat) :
    (quarter^[n] sprite).count = sprite.count ∧
      (quarter^[n] sprite).isConnected = sprite.isConnected := by
  induction n with
  | zero => exact ⟨rfl, rfl⟩
  | succ n ih =>
    rw [Function.iterate_succ_apply', (h.iterate n).count_quarter,
      (h.iterate n).isConnected_quarter]
    exact ih

/-! ## Turns -/

/-- What is read of a cell is whether it is covered. -/
theorem eq_covers_of_isOn {row column : Nat} {on : Bool} (h : sprite.isOn row column = .ok on) :
    on = sprite.covers (row, column) := by
  rw [isOn] at h
  cases there : sprite.cells[row]? with
  | none => rw [there] at h; cases h
  | some cells =>
    rw [there] at h
    rw [covers, there, Option.bind_some, rowIsOn_eq_ok_iff.mp h, Option.getD_some]

/-- A quarter turn comes to the turned sprite if it does not fail. -/
theorem eq_quarter_of_quarterTurn (h : sprite.quarterTurn = .ok other) :
    other = sprite.quarter := by
  obtain ⟨cells, rows, made⟩ := bind_eq_ok_iff.mp h
  rw [← Except.ok.inj made, quarter]
  refine congrArg Sprite.mk (eq_map_of_mapM (fun row _ cells reads => ?_) rows)
  exact eq_map_of_mapM (fun column _ on read => eq_covers_of_isOn read) reads

/-- A quarter turn of a sprite of a body does not fail. -/
theorem Square.quarterTurn_eq (h : sprite.Square) : sprite.quarterTurn = .ok sprite.quarter := by
  have rows (row : Nat) (hr : row ∈ List.range side) :
      (List.range side).mapM (fun column => sprite.isOn (side - 1 - column) row) =
        .ok ((List.range side).map fun column => sprite.covers (origin (row, column))) :=
    mapM_eq_ok fun column hc => by
      have inside : OnBody (row, column) := ⟨List.mem_range.mp hr, List.mem_range.mp hc⟩
      exact h.roomy.spacious.isOn_eq inside.origin
  rw [quarterTurn, mapM_eq_ok rows]
  rfl

/-- Turns of a sprite of a body do not fail. -/
theorem Square.turned_eq (h : sprite.Square) (n : Nat) :
    sprite.turned n = .ok (quarter^[n] sprite) := by
  induction n generalizing sprite with
  | zero => rfl
  | succ n ih =>
    rw [turned, h.quarterTurn_eq]
    exact ih (square_quarter sprite)

/-- Turns in a row add up. -/
theorem turned_add (sprite : Sprite) (m n : Nat) :
    sprite.turned (m + n) = (do (← sprite.turned m).turned n) := by
  induction m generalizing sprite with
  | zero => rw [Nat.zero_add]; rfl
  | succ m ih =>
    rw [Nat.succ_add, turned, turned, bind_assoc]
    exact bind_congr fun next => ih next

/-- Four more turns change nothing, unless they are all the turns of a sprite that is not one of a
body. -/
theorem turned_add_four {n : Nat} (h : sprite.Square ∨ n ≠ 0) :
    sprite.turned (n + 4) = sprite.turned n := by
  have body {sprite : Sprite} (square : sprite.Square) (n : Nat) :
      sprite.turned (n + 4) = sprite.turned n := by
    rw [square.turned_eq, square.turned_eq, Function.iterate_add_apply, square.iterate_four]
  rcases h with square | turns
  · exact body square n
  · obtain ⟨n, rfl⟩ := Nat.exists_eq_succ_of_ne_zero turns
    rw [Nat.succ_add, turned, turned]
    cases first : sprite.quarterTurn with
    | error fault => rfl
    | ok next =>
      rw [eq_quarter_of_quarterTurn first]
      exact body (square_quarter sprite) n

/-- Rotations by numbers of quarters that differ by whole turns are the same. -/
theorem rotated_congr (sprite : Sprite) {j k : Int} (h : j % 4 = k % 4) :
    sprite.rotated j = sprite.rotated k := by
  rw [rotated, rotated, h]

/-- Rotations in a row add up on a sprite of a body. On any sprite they do if the first one is by
whole turns or both together are not. -/
theorem rotated_add {j k : Int} (h : sprite.Square ∨ j % 4 = 0 ∨ (j + k) % 4 ≠ 0) :
    (do (← sprite.rotated j).rotated k) = sprite.rotated (j + k) := by
  have sum : (do (← sprite.rotated j).rotated k) =
      sprite.turned ((j % 4).toNat + (k % 4).toNat) := (turned_add sprite _ _).symm
  rw [sum, rotated]
  -- The remainders add up to that of the sum, or to four more, and then there are turns before.
  by_cases carry : (j % 4).toNat + (k % 4).toNat = ((j + k) % 4).toNat
  · rw [carry]
  · have more : (j % 4).toNat + (k % 4).toNat = ((j + k) % 4).toNat + 4 := by omega
    rw [more]
    refine turned_add_four (h.imp_right fun turns => ?_)
    omega

/-- Rotations of a sprite of a body do not fail. -/
theorem Square.rotated_eq (h : sprite.Square) (j : Int) :
    sprite.rotated j = .ok (quarter^[(j % 4).toNat] sprite) :=
  h.turned_eq _

end Vivarium.Sprite
