import Vivarium.Fault
import Vivarium.Number.Word

/-!
# Positions in a sequence

A position counts from the front when it is not negative and from the end when it is: `-1` is the
last place.
-/

namespace Vivarium

/-- The place of a position in a sequence of `size` elements, if there is one. -/
def place? (size : Nat) (position : Int) : Option (Fin size) :=
  let place := if position < 0 then position + size else position
  if h : 0 ≤ place ∧ place < size then some ⟨place.toNat, by omega⟩ else none

/-- The fault of a position without a place: the given one, unless the position is no word. -/
def misplaced (position : Int) (fault : Fault) : Fault :=
  if fitsWord position then fault else .positionTooLarge

/-- A position counted from the front is its own place. -/
theorem place?_natCast {size i : Nat} (h : i < size) : place? size (i : Int) = some ⟨i, h⟩ := by
  have h' : ¬(i : Int) < 0 := by omega
  simp [place?, h', h]

/-- A position has no place exactly when it lies before the first or after the last. -/
theorem place?_eq_none_iff {size : Nat} {i : Int} :
    place? size i = none ↔ i < -size ∨ (size : Int) ≤ i := by
  simp only [place?]
  grind

end Vivarium
