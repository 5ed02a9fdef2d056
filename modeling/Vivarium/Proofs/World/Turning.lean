import Vivarium.Proofs.Sprite.Rotation
import Vivarium.Proofs.World.Occupancy

/-!
# Turning animals

A turn of an animal changes its heading, and the body is drawn turned to the heading. The three
conventions that take part in this fit together: how a turn changes the heading, which rotation is
that of a heading, and which way rotations go. So the body is drawn after some turns as it was
before, rotated by the turns to the right less those to the left. For a sprite with other rows and
columns than those of a body this fails when the animal comes to face up, where the sprite is drawn
as it is stored, while it was cut down to a body before.
-/

namespace Vivarium

/-- The sides to which an animal turns. -/
inductive Side where
  | left
  | right
  deriving DecidableEq

/-- The quarters by which a turn to a side goes clockwise. -/
def Side.quarters : Side → Int
  | left => -1
  | right => 1

/-- The turns to the right less those to the left. -/
def netTurns (sides : List Side) : Int :=
  (sides.count .right : Int) - sides.count .left

@[simp] theorem netTurns_nil : netTurns [] = 0 := rfl

/-- One turn more counts by its quarters. -/
theorem netTurns_cons (side : Side) (sides : List Side) :
    netTurns (side :: sides) = side.quarters + netTurns sides := by
  cases side <;> simp [netTurns, Side.quarters] <;> omega

namespace Animal

/-- The animal after a turn to a side. -/
def turn (animal : Animal) : Side → Animal
  | .left => animal.turnLeft
  | .right => animal.turnRight

/-- The animal after turns to some sides in a row. -/
def turns (animal : Animal) (sides : List Side) : Animal :=
  sides.foldl turn animal

/-- Whether an animal has one of the four headings. -/
def Headed (animal : Animal) : Prop :=
  (animal.dx, animal.dy) ∈ headings

/-- Whether an animal faces up. -/
def FacesUp (animal : Animal) : Prop :=
  (animal.dx, animal.dy) = (0, -1)

instance (animal : Animal) : Decidable animal.Headed :=
  inferInstanceAs (Decidable (_ ∈ headings))

instance (animal : Animal) : Decidable animal.FacesUp :=
  inferInstanceAs (Decidable (_ = _))

/-- The quarters by which the body of an animal is drawn turned. -/
def drawnQuarters (animal : Animal) : Int :=
  Sprite.quarterTurns animal.dx animal.dy

variable {animal : Animal}

/-- A turn leads from a heading to the next one on its side, for which the body is turned by the
quarters of the side more. -/
theorem Headed.turn (h : animal.Headed) (side : Side) :
    (animal.turn side).Headed ∧
      (animal.turn side).drawnQuarters % 4 = (animal.drawnQuarters + side.quarters) % 4 := by
  have left : ∀ heading ∈ headings, (heading.2, -heading.1) ∈ headings ∧
      (Sprite.quarterTurns heading.2 (-heading.1) : Int) % 4 =
        (Sprite.quarterTurns heading.1 heading.2 + -1) % 4 := by
    decide
  have right : ∀ heading ∈ headings, (-heading.2, heading.1) ∈ headings ∧
      (Sprite.quarterTurns (-heading.2) heading.1 : Int) % 4 =
        (Sprite.quarterTurns heading.1 heading.2 + 1) % 4 := by
    decide
  cases side with
  | left => exact left _ h
  | right => exact right _ h

/-- Turns lead from a heading to a heading, and the body is turned by all their quarters more. -/
theorem Headed.turns (h : animal.Headed) (sides : List Side) :
    (animal.turns sides).Headed ∧
      (animal.turns sides).drawnQuarters % 4 = (animal.drawnQuarters + netTurns sides) % 4 := by
  induction sides generalizing animal with
  | nil =>
    rw [netTurns_nil, add_zero]
    exact ⟨h, rfl⟩
  | cons side sides ih =>
    obtain ⟨headed, first⟩ := h.turn side
    obtain ⟨headed, others⟩ := ih headed
    refine ⟨headed, others.trans ?_⟩
    rw [netTurns_cons]
    omega

/-- Turns leave the body as it is stored. -/
theorem body_turns (animal : Animal) (sides : List Side) :
    (animal.turns sides).body = animal.body := by
  induction sides generalizing animal with
  | nil => rfl
  | cons side sides ih =>
    refine (ih (animal.turn side)).trans ?_
    cases side <;> rfl

/-- An animal faces up just if its body is drawn as it is stored. -/
theorem Headed.facesUp_iff (h : animal.Headed) : animal.FacesUp ↔ animal.drawnQuarters % 4 = 0 := by
  have each : ∀ heading ∈ headings,
      heading = (0, -1) ↔ (Sprite.quarterTurns heading.1 heading.2 : Int) % 4 = 0 := by
    decide
  exact each _ h

/-- The body is drawn after some turns as it was before, rotated by the turns to the right less
those to the left, if its sprite has the rows and columns of a body, or the animal faced up before,
or does not face up after them. -/
theorem Headed.turnedBody_turns (h : animal.Headed) (sides : List Side)
    (window : animal.body.Square ∨ animal.FacesUp ∨ ¬(animal.turns sides).FacesUp) :
    (animal.turns sides).turnedBody = (do (← animal.turnedBody).rotated (netTurns sides)) := by
  obtain ⟨headed, quarters⟩ := h.turns sides
  rw [h.facesUp_iff, headed.facesUp_iff, quarters] at window
  calc (animal.turns sides).turnedBody
      = animal.body.rotated (animal.turns sides).drawnQuarters := by
        rw [turnedBody, body_turns]
        rfl
    _ = animal.body.rotated (animal.drawnQuarters + netTurns sides) :=
        Sprite.rotated_congr _ quarters
    _ = (do (← animal.turnedBody).rotated (netTurns sides)) := (Sprite.rotated_add window).symm

/-- On every sprite with the rows and columns of a body, one rotation after another is the rotation
by both numbers of quarters together, whatever these are, and a rotation keeps the number of covered
cells and whether they are connected. After any turns of an animal with one of the four headings the
body is stored as it was, and it is drawn as it was before, rotated by the turns to the right less
those to the left, if its sprite is one with the rows and columns of a body, or the animal faced up
before the turns, or does not face up after them. -/
theorem turns_rotate_drawing :
    (∀ sprite : Sprite, sprite.Square → ∀ j k : Int, ∃ once twice,
      sprite.rotated j = .ok once ∧ once.rotated k = .ok twice ∧
      sprite.rotated (j + k) = .ok twice ∧
      once.count = sprite.count ∧ once.isConnected = sprite.isConnected) ∧
    ∀ (animal : Animal) (sides : List Side), animal.Headed →
      (animal.turns sides).body = animal.body ∧
      (animal.body.Square ∨ animal.FacesUp ∨ ¬(animal.turns sides).FacesUp →
        (animal.turns sides).turnedBody =
          (do (← animal.turnedBody).rotated (netTurns sides))) := by
  constructor
  · intro sprite square j k
    have once := square.rotated_eq j
    have twice := (square.iterate (j % 4).toNat).rotated_eq k
    obtain ⟨count, connected⟩ := square.iterate_keeps (j % 4).toNat
    refine ⟨_, _, once, twice, ?_, count, connected⟩
    rw [← Sprite.rotated_add (.inl square), once]
    exact twice
  · intro animal sides headed
    exact ⟨body_turns animal sides, headed.turnedBody_turns sides⟩

/-- A body with a cell beyond the columns of a body. -/
def wide : Animal :=
  { cell := ⟨0, 0⟩, body := .ofRows ["..#..#", ".###..", "..#...", ".###..", ".#.#.."] }

/-- The standard body turns back by a quarter and then on by six, and the wide animal, which faces
right, is drawn after two turns to the right and one to the left as it was, but turned by a quarter.
-/
theorem turns_rotate_drawing_wide :
    (Sprite.standard.Square ∧ ∃ once twice,
      Sprite.standard.rotated (-1) = .ok once ∧ once.rotated 6 = .ok twice ∧
      Sprite.standard.rotated 5 = .ok twice ∧
      once.count = 10 ∧ once.isConnected = .ok true) ∧
    wide.Headed ∧ ¬(wide.turns [.right, .left, .right]).FacesUp ∧
      (wide.turns [.right, .left, .right]).body = wide.body ∧
      (wide.turns [.right, .left, .right]).turnedBody =
        (do (← wide.turnedBody).rotated 1) := by
  have headed : wide.Headed := by decide
  have down : ¬(wide.turns [.right, .left, .right]).FacesUp := by decide
  obtain ⟨rotations, drawings⟩ := turns_rotate_drawing
  obtain ⟨stored, drawn⟩ := drawings wide [.right, .left, .right] headed
  exact ⟨⟨Sprite.square_standard, rotations _ Sprite.square_standard (-1) 6⟩, headed, down, stored,
    drawn (.inr (.inr down))⟩

/-- The wide animal faces right, and its body is drawn without the cell that is too much. After a
turn to the left it faces up, and its body is drawn with that cell, which no rotation of the drawing
before brings about. -/
theorem turns_uncover_margin :
    wide.Headed ∧ wide.turnedBody = .ok (.ofRows [".....", "##.#.", ".####", "##.#.", "....."]) ∧
      (wide.turns [.left]).turnedBody = .ok wide.body ∧
      (wide.turns [.left]).turnedBody ≠ (do (← wide.turnedBody).rotated (netTurns [.left])) := by
  have upright : (do (← wide.turnedBody).rotated (netTurns [.left])) = .ok .standard := rfl
  refine ⟨by decide, rfl, rfl, fun same => ?_⟩
  have drawn : wide.body = .standard := Except.ok.inj (same.trans upright)
  exact absurd drawn (by decide)

end Animal

end Vivarium
