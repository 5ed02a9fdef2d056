import Vivarium.Evolution.Body
import Vivarium.Proofs.Sprite.Validity

/-!
# Generated and mutated bodies

Generating a body never fails and gives a valid one with both head cells on, and mutating a body
never fails and gives the body itself or a valid one that differs from it in one cell, which is
neither a corner nor a head cell, and in the mirror image of that cell. This holds for every source
of random numbers and every number of attempts.
-/

namespace Vivarium

variable {G : Type} [Source G]

namespace Sprite

/-- Whether all head cells are on. -/
def Headed (sprite : Sprite) : Prop := ∀ cell ∈ headCells, sprite.covers cell = true

/-- Whether a cell is one of a body that may change: neither a corner nor a head cell. -/
structure Changeable (cell : Nat × Nat) : Prop where
  onBody : OnBody cell
  corner : cell ∉ corners
  head : cell ∉ headCells

/-- Whether a sprite differs from another just in a cell and its mirror image. -/
structure DiffersAt (cell : Nat × Nat) (before after : Sprite) : Prop where
  extent : after.extent = before.extent
  covers : ∀ other, after.covers other ≠ before.covers other ↔ other = cell ∨ other = mirrored cell

/-- The sprite with a cell and its mirror image switched, and the corners off. -/
def toggled (sprite : Sprite) (cell : Nat × Nat) : Sprite :=
  putAll corners false (putAll [cell, mirrored cell] (!sprite.covers cell) sprite)

variable {sprite : Sprite} {cell : Nat × Nat}

/-- Toggling leaves the lengths of the rows. -/
theorem extent_toggled (sprite : Sprite) (cell : Nat × Nat) :
    (sprite.toggled cell).extent = sprite.extent :=
  (extent_putAll _ _ _).trans (extent_putAll _ _ _)

/-- The mirror image of a corner is a corner. -/
theorem mirrored_mem_corners (h : cell ∈ corners) : mirrored cell ∈ corners :=
  (by decide : ∀ corner ∈ corners, mirrored corner ∈ corners) cell h

/-- The head cells are their own mirror images. -/
theorem mirrored_of_mem_headCells (h : cell ∈ headCells) : mirrored cell = cell :=
  (by decide : ∀ head ∈ headCells, mirrored head = head) cell h

/-- The mirror image of a cell that may change may change. -/
theorem Changeable.mirrored (h : Changeable cell) : Changeable (mirrored cell) where
  onBody := h.onBody.mirrored
  corner corner := h.corner (h.onBody.mirrored_mirrored ▸ mirrored_mem_corners corner)
  head head := by
    have same := mirrored_of_mem_headCells head
    rw [h.onBody.mirrored_mirrored] at same
    exact h.head (same ▸ head)

/-- Toggling a cell that may change changes the cell and its mirror image, and nothing else. -/
theorem Valid.differsAt_toggled (h : sprite.Valid) (hc : Changeable cell) :
    DiffersAt cell sprite (sprite.toggled cell) := by
  refine ⟨extent_toggled sprite cell, fun other => ?_⟩
  have pair : ∀ other ∈ [cell, mirrored cell], Changeable other := by
    simpa using ⟨hc, hc.mirrored⟩
  have spacious := h.roomy.spacious.of_extent_eq (extent_putAll [cell, mirrored cell]
    (!sprite.covers cell) sprite)
  rw [toggled, spacious.covers_putAll (fun _ => onBody_of_mem_corners),
    h.roomy.spacious.covers_putAll fun other ho => (pair other ho).onBody]
  by_cases corner : other ∈ corners
  · rw [if_pos corner, h.corners_off other corner]
    refine iff_of_false (fun differs => differs rfl) fun same => ?_
    exact (pair other (by simpa using same)).corner corner
  · rw [if_neg corner]
    by_cases same : other ∈ [cell, mirrored cell]
    · have value : sprite.covers other = sprite.covers cell := by
        rcases List.mem_pair.mp same with rfl | rfl
        · rfl
        · exact h.symmetric cell hc.onBody.2
      rw [if_pos same, value]
      exact iff_of_true (by simp) (List.mem_pair.mp same)
    · rw [if_neg same]
      exact iff_of_false (fun differs => differs rfl) (mt List.mem_pair.mpr same)

/-- Where a cell that may change is the only difference, the head cells are the same. -/
theorem DiffersAt.covers_head {before after : Sprite} (h : DiffersAt cell before after)
    (hc : Changeable cell) {head : Nat × Nat} (hh : head ∈ headCells) :
    after.covers head = before.covers head := by
  by_contra differs
  rcases (h.covers head).mp differs with rfl | rfl
  · exact hc.head hh
  · exact hc.mirrored.head hh

end Sprite

open Sprite

/-! ## Generation -/

/-- A body that is drawn half by half is square. -/
theorem square_bodyOfHalf (half : List (List Bool)) : (bodyOfHalf half).Square where
  rows := by simp [bodyOfHalf]
  columns row hr := by
    simp only [bodyOfHalf, List.mem_map] at hr
    obtain ⟨r, -, rfl⟩ := hr
    simp

/-- A body that is drawn half by half has both head cells on. -/
theorem headed_bodyOfHalf (half : List (List Bool)) : (bodyOfHalf half).Headed := by
  intro cell hc
  rcases List.mem_pair.mp hc with rfl | rfl <;> rfl

/-- The standard shape has both head cells on. -/
theorem headed_standard : standard.Headed := by
  intro cell hc
  rcases List.mem_pair.mp hc with rfl | rfl <;> rfl

/-- Generating a body never fails and gives a square and valid one with both head cells on. -/
theorem exists_generateBody (attempts : Nat) (g : G) :
    ∃ body after, (generateBody attempts).outcome g = (.ok body, after) ∧ body.Square ∧
      body.Valid ∧ body.Headed := by
  induction attempts generalizing g with
  | zero => exact ⟨_, g, rfl, square_standard, isValid_iff.mp isValid_standard, headed_standard⟩
  | succ attempts ih =>
    rw [generateBody, Attempt.outcome_bind_of_ok (Attempt.outcome_draw _ g)]
    have square : ((drawBody bodyDensity g).1 : Sprite).Square := square_bodyOfHalf _
    have headed : ((drawBody bodyDensity g).1 : Sprite).Headed := headed_bodyOfHalf _
    obtain ⟨valid, outcome, valid_iff⟩ := square.roomy.exists_isValid
    rw [Attempt.outcome_bind_of_ok (by rw [outcome]; rfl)]
    cases valid with
    | true => exact ⟨_, _, rfl, square, valid_iff.mp rfl, headed⟩
    | false => exact ih _

/-! ## Mutation -/

variable {body : Sprite} {cell : Nat × Nat}

/-- The cells that may be changed are the changeable ones. -/
theorem flippable_iff (hc : OnBody cell) :
    flippable cell.1 cell.2 = true ↔ Changeable cell := by
  have apart (other : Nat × Nat) :
      ((cell.1 : Int), (cell.2 : Int)) ≠ ((other.1 : Int), (other.2 : Int)) ↔ cell ≠ other := by
    simp only [ne_eq, Prod.ext_iff, Int.natCast_inj]
  simp only [flippable, List.all_eq_true, decide_eq_true_eq, apart, List.mem_append]
  constructor
  · intro all
    exact ⟨hc, fun corner => all cell (Or.inl corner) rfl, fun head => all cell (Or.inr head) rfl⟩
  · rintro changeable other (corner | head) rfl
    · exact changeable.corner corner
    · exact changeable.head head

/-- Flipping a cell of a body is toggling it. -/
theorem flipped_eq (h : body.Spacious) (hc : OnBody cell) :
    flipped body cell.1 cell.2 = .ok (body.toggled cell) := by
  have switched : (do
      switchMirrored cell.1 cell.2 (!body.covers cell)
      clearCorners : Attempt Sprite Unit).outcome body = (.ok (), body.toggled cell) := by
    rw [Attempt.outcome_bind_of_ok (h.outcome_switchMirrored hc _)]
    exact (h.of_extent_eq (extent_putAll _ _ body)).outcome_clearCorners
  rw [flipped, h.isOn_eq hc]
  exact congrArg (fun outcome => outcome.1.map fun _ => outcome.2) switched

/-- Mutating a body with all its cells never fails. It gives the body itself or a valid one in which
a cell that may change is toggled. -/
theorem exists_mutateBody (h : body.Roomy) (attempts : Nat) (g : G) :
    ∃ mutated after, (mutateBody body attempts).outcome g = (.ok mutated, after) ∧
      (mutated = body ∨ ∃ cell, Changeable cell ∧ mutated = body.toggled cell ∧ mutated.Valid) := by
  induction attempts generalizing g with
  | zero => exact ⟨body, g, rfl, Or.inl rfl⟩
  | succ attempts ih =>
    rw [mutateBody, Attempt.outcome_bind_of_ok (Attempt.outcome_draw _ g),
      Attempt.outcome_bind_of_ok (Attempt.outcome_draw _ _)]
    generalize (Draw.below Sprite.side (by decide) g : Fin Sprite.side × G) = row
    generalize (Draw.below Sprite.halfWidth (by decide) row.2 : Fin Sprite.halfWidth × G) = column
    have onBody : OnBody (row.1.val, column.1.val) :=
      ⟨row.1.isLt, Nat.lt_trans column.1.isLt (by decide)⟩
    obtain ⟨valid, outcome, valid_iff⟩ :=
      (h.of_extent_eq (extent_toggled body (row.1.val, column.1.val))).exists_isValid
    split
    · rename_i allowed
      rw [Attempt.outcome_bind_of_ok (by rw [flipped_eq h.spacious onBody]; rfl),
        Attempt.outcome_bind_of_ok (by rw [outcome]; rfl)]
      cases valid with
      | true =>
        exact ⟨_, _, rfl, Or.inr ⟨_, (flippable_iff onBody).mp allowed, rfl, valid_iff.mp rfl⟩⟩
      | false => exact ih _
    · exact ih _

/-- Mutating a square body gives a square one. -/
theorem exists_square_mutateBody (h : body.Square) (attempts : Nat) (g : G) :
    ∃ mutated after, (mutateBody body attempts).outcome g = (.ok mutated, after) ∧
      mutated.Square := by
  obtain ⟨mutated, after, outcome, rfl | ⟨cell, -, rfl, -⟩⟩ := exists_mutateBody h.roomy attempts g
  · exact ⟨_, after, outcome, h⟩
  · exact ⟨_, after, outcome, h.of_extent_eq (extent_toggled body cell)⟩

/-- Mutating a valid body gives a valid one with the same head cells, which is the body itself or
differs from it in one cell that may change and in the mirror image of that cell. -/
theorem exists_valid_mutateBody (h : body.Valid) (attempts : Nat) (g : G) :
    ∃ mutated after, (mutateBody body attempts).outcome g = (.ok mutated, after) ∧
      mutated.Valid ∧ (∀ head ∈ headCells, mutated.covers head = body.covers head) ∧
      (mutated = body ∨ ∃ cell, Changeable cell ∧ DiffersAt cell body mutated) := by
  obtain ⟨mutated, after, outcome, rfl | ⟨cell, changeable, rfl, valid⟩⟩ :=
    exists_mutateBody h.roomy attempts g
  · exact ⟨_, after, outcome, h, fun _ _ => rfl, Or.inl rfl⟩
  · have differs := h.differsAt_toggled changeable
    exact ⟨_, after, outcome, valid, fun head hh => differs.covers_head changeable hh,
      Or.inr ⟨cell, changeable, differs⟩⟩

end Vivarium
