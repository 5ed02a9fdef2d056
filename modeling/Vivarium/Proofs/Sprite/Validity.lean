import Vivarium.Proofs.Sprite.Flood

/-!
# Validity

A valid sprite has room for a body, no corner covered, four to thirteen covered cells, the same cells
covered on both sides and one connected piece. The tests of a shape come to a value on every sprite
with room for a body, and they come to a success on valid sprites only.
-/

namespace Vivarium

/-- Tests that come to values come to one together. -/
theorem allM_eq_ok {α : Type} {test : α → Except Fault Bool} {passes : α → Bool} {items : List α}
    (h : ∀ a ∈ items, test a = .ok (passes a)) : items.allM test = .ok (items.all passes) := by
  induction items with
  | nil => rfl
  | cons a items ih =>
    rw [List.forall_mem_cons] at h
    rw [List.allM, h.1, List.all_cons]
    cases passes a with
    | true => exact ih h.2
    | false => rfl

/-- Tests of which one success is enough come to a value together if each of them does. -/
theorem anyM_eq_ok {α : Type} {test : α → Except Fault Bool} {passes : α → Bool} {items : List α}
    (h : ∀ a ∈ items, test a = .ok (passes a)) : items.anyM test = .ok (items.any passes) := by
  induction items with
  | nil => rfl
  | cons a items ih =>
    rw [List.forall_mem_cons] at h
    rw [List.anyM, h.1, List.any_cons]
    cases passes a with
    | true => rfl
    | false => exact ih h.2

/-- Where all tests together are passed, each of them is. -/
theorem forall_of_allM {α : Type} {test : α → Except Fault Bool} {items : List α}
    (h : items.allM test = .ok true) : ∀ a ∈ items, test a = .ok true := by
  induction items with
  | nil => exact nofun
  | cons a items ih =>
    obtain ⟨passed, ha, rest⟩ := bind_eq_ok_iff.mp h
    cases passed with
    | true => exact List.forall_mem_cons.mpr ⟨ha, ih rest⟩
    | false => cases rest

/-- Where no test is passed, each of them comes to a value. -/
theorem forall_of_anyM {α : Type} {test : α → Except Fault Bool} {items : List α}
    (h : items.anyM test = .ok false) : ∀ a ∈ items, test a = .ok false := by
  induction items with
  | nil => exact nofun
  | cons a items ih =>
    obtain ⟨passed, ha, rest⟩ := bind_eq_ok_iff.mp h
    cases passed with
    | true => cases rest
    | false => exact List.forall_mem_cons.mpr ⟨ha, ih rest⟩

namespace Sprite

/-- Whether a sprite is the shape of a body. -/
structure Valid (sprite : Sprite) : Prop where
  /-- All cells of a body are there. -/
  roomy : sprite.Roomy
  /-- The corners are off. -/
  corners_off : ∀ cell ∈ corners, sprite.covers cell = false
  /-- Enough cells are on. -/
  fewest : fewestCells ≤ sprite.count
  /-- Not too many cells are on. -/
  most : sprite.count ≤ mostCells
  /-- The left half is the mirror image of the right one. -/
  symmetric : ∀ cell : Nat × Nat, cell.2 < side → sprite.covers (mirrored cell) = sprite.covers cell
  /-- The cells that are on make up one piece. -/
  connected : sprite.Connected

variable {sprite : Sprite}

/-- What is read of a cell of a row. -/
theorem covers_of_row {r : Nat} {row : List Bool} (hr : sprite.cells[r]? = some row)
    (column : Nat) : sprite.covers (r, column) = row[column]?.getD false := by
  rw [covers, hr, Option.bind_some]

/-- No corner is on if none is covered. -/
theorem Spacious.anyM_corners (h : sprite.Spacious) :
    (corners.anyM fun (row, column) => sprite.isOn row column) =
      .ok (corners.any sprite.covers) :=
  anyM_eq_ok fun _ hc => h.isOn_eq (onBody_of_mem_corners hc)

/-- Whether a sprite is symmetric can be told. -/
theorem Roomy.exists_isSymmetric (h : sprite.Roomy) :
    ∃ symmetric, sprite.isSymmetric = .ok symmetric ∧ (symmetric = true ↔
      ∀ cell : Nat × Nat, cell.2 < side → sprite.covers (mirrored cell) = sprite.covers cell) := by
  let alike (row : List Bool) (column : Nat) : Bool :=
    row[column]?.getD false = row[side - 1 - column]?.getD false
  have reads (row : List Bool) (hr : row ∈ sprite.cells) (column : Nat) (hc : column < side) :
      rowIsOn row column = .ok (row[column]?.getD false) := by
    have long := h.columns _ (List.mem_map_of_mem hr)
    have there := List.getElem?_eq_getElem (Nat.lt_of_lt_of_le hc long)
    rw [rowIsOn_eq_ok_iff.mpr there, there, Option.getD_some]
  have row_alike (row : List Bool) (hr : row ∈ sprite.cells) :
      ((List.range side).allM fun column => do
        return (← rowIsOn row column) = (← rowIsOn row (side - 1 - column)) : Except Fault Bool) =
        .ok ((List.range side).all (alike row)) := by
    refine allM_eq_ok fun column hc => ?_
    have short := List.mem_range.mp hc
    rw [reads row hr column short, reads row hr (side - 1 - column) (by omega)]
    rfl
  refine ⟨_, allM_eq_ok row_alike, ?_⟩
  rw [List.all_eq_true]
  constructor
  · rintro all ⟨r, column⟩ hc
    cases hr : sprite.cells[r]? with
    | none => rw [covers, covers, mirrored, hr, Option.bind_none, Option.bind_none]
    | some row =>
      have same := List.all_eq_true.mp (all row (List.mem_of_getElem? hr)) column
        (List.mem_range.mpr hc)
      rw [mirrored, covers_of_row hr, covers_of_row hr]
      exact (of_decide_eq_true same).symm
  · intro all row hm
    obtain ⟨r, hr⟩ := List.mem_iff_getElem?.mp hm
    refine List.all_eq_true.mpr fun column hc => decide_eq_true ?_
    have same := all (r, column) (List.mem_range.mp hc)
    rw [mirrored, covers_of_row hr, covers_of_row hr] at same
    exact same.symm

/-- Whether a sprite is valid can be told where there is room for a body. -/
theorem Roomy.exists_isValid (h : sprite.Roomy) :
    ∃ valid, sprite.isValid = .ok valid ∧ (valid = true ↔ sprite.Valid) := by
  obtain ⟨symmetric, hs, symmetric_iff⟩ := h.exists_isSymmetric
  obtain ⟨connected, hc, connected_iff⟩ := h.spacious.exists_isConnected
  have outcome : sprite.isValid = .ok (!corners.any sprite.covers &&
      !(sprite.count < fewestCells || mostCells < sprite.count) && symmetric && connected) := by
    rw [isValid, h.spacious.anyM_corners, hs, hc]
    cases corners.any sprite.covers with
    | true => rfl
    | false =>
      cases (sprite.count < fewestCells || mostCells < sprite.count : Bool) with
      | true => rfl
      | false => cases symmetric <;> rfl
  refine ⟨_, outcome, ?_⟩
  simp only [Bool.and_eq_true, Bool.not_eq_true', List.any_eq_false, Bool.not_eq_true,
    Bool.or_eq_false_iff, decide_eq_false_iff_not, Nat.not_lt, symmetric_iff, connected_iff]
  exact ⟨fun ⟨⟨⟨off, few, many⟩, same⟩, piece⟩ => ⟨h, off, few, many, same, piece⟩,
    fun valid => ⟨⟨⟨valid.corners_off, valid.fewest, valid.most⟩, valid.symmetric⟩,
      valid.connected⟩⟩

/-- A sprite whose corners can be read and whose rows can be compared has room for a body. -/
theorem roomy_of_isValid (h : sprite.isValid = .ok true) : sprite.Roomy := by
  obtain ⟨tip, corner, rest⟩ := bind_eq_ok_iff.mp h
  cases tip with
  | true => cases rest
  | false =>
    rw [if_neg Bool.false_ne_true] at rest
    split at rest
    · cases rest
    · obtain ⟨symmetric, same, connected⟩ := bind_eq_ok_iff.mp rest
      cases symmetric with
      | false => cases connected
      | true =>
        have last := forall_of_anyM corner (side - 1, 0) (by decide)
        refine ⟨?_, fun length hl => ?_⟩
        · rw [extent, List.length_map]
          exact Nat.le_of_pred_lt (lt_length_of_isOn last)
        · obtain ⟨row, hr, rfl⟩ := List.mem_map.mp hl
          have compared := forall_of_allM (forall_of_allM same row hr) (side - 1) (by decide)
          obtain ⟨on, read, -⟩ := bind_eq_ok_iff.mp compared
          exact Nat.le_of_pred_lt (List.getElem?_eq_some_iff.mp (rowIsOn_eq_ok_iff.mp read)).1

/-- The test of a shape is passed by the valid sprites. -/
theorem isValid_iff : sprite.isValid = .ok true ↔ sprite.Valid := by
  constructor
  · intro h
    obtain ⟨valid, outcome, valid_iff⟩ := (roomy_of_isValid h).exists_isValid
    exact valid_iff.mp (Except.ok.inj (outcome.symm.trans h))
  · intro h
    obtain ⟨valid, outcome, valid_iff⟩ := h.roomy.exists_isValid
    rw [outcome, valid_iff.mpr h]

end Sprite

end Vivarium
