/-!
# Rounding to a binary grid

A binary format keeps a fixed number of significant bits and a finest unit. Rounding an exact
rational number to a format takes the nearest multiple of the unit that belongs to the number's
magnitude, and of two equally near multiples the even one.
-/

namespace Vivarium

/-- The integer nearest to a rational number; of two equally near integers the even one. -/
def nearestInteger (x : Rat) : Int :=
  let below := x.floor
  let excess := x - below
  if excess < 1 / 2 then below
  else if 1 / 2 < excess then below + 1
  else if below % 2 = 0 then below
  else below + 1

/-- The exponent of the power of two at or just below the magnitude of a nonzero number. -/
def binade (x : Rat) : Int :=
  let estimate : Int := (x.num.natAbs.log2 : Int) - (x.den.log2 : Int)
  if (2 : Rat) ^ estimate ≤ x.abs then estimate else estimate - 1

/-- A binary floating-point format. -/
structure BinaryFormat where
  /-- The number of significant bits. -/
  precision : Nat
  /-- The exponent of the finest unit. -/
  finest : Int
  /-- The exponent of the power of two that no finite number reaches. -/
  ceiling : Int
  deriving DecidableEq, Repr

namespace BinaryFormat

/-- The format of doubles. -/
def binary64 : BinaryFormat := ⟨53, -1074, 1024⟩

/-- The format of single-precision numbers. -/
def binary32 : BinaryFormat := ⟨24, -149, 128⟩

/-- The exponent of the unit in the last place at the magnitude of `x`. -/
def unitExponent (format : BinaryFormat) (x : Rat) : Int :=
  max (binade x - (format.precision - 1)) format.finest

/-- The nearest point of the format's grid, taken as if its exponents had no ceiling. -/
def round (format : BinaryFormat) (x : Rat) : Rat :=
  if x = 0 then 0
  else
    let unit := (2 : Rat) ^ format.unitExponent x
    nearestInteger (x / unit) * unit

/-- Whether a rounded number is too large to be finite in the format. -/
def overflows (format : BinaryFormat) (x : Rat) : Bool :=
  (2 : Rat) ^ format.ceiling ≤ x.abs

end BinaryFormat

/-- The nearest integer is at most one half away. -/
theorem nearestInteger_near (x : Rat) :
    x - 1 / 2 ≤ nearestInteger x ∧ (nearestInteger x : Rat) ≤ x + 1 / 2 := by
  have below := Rat.floor_le x
  have above := Rat.lt_floor_add_one x
  simp only [nearestInteger]
  rw [Rat.intCast_add] at above
  split
  · constructor <;> grind
  · split
    · rw [Rat.intCast_add]; constructor <;> grind
    · split
      · constructor <;> grind
      · rw [Rat.intCast_add]; constructor <;> grind

/-- A number midway between two integers goes to the even one. -/
theorem nearestInteger_midway (n : Int) : nearestInteger (n + 1 / 2) % 2 = 0 := by
  have floor : ((n : Rat) + 1 / 2).floor = n := by
    apply Int.le_antisymm
    · have := Rat.floor_le ((n : Rat) + 1 / 2)
      have h : (((n : Rat) + 1 / 2).floor : Rat) < ((n + 1 : Int) : Rat) := by
        rw [Rat.intCast_add]; grind
      have := Rat.intCast_lt_intCast.mp h
      omega
    · rw [Rat.le_floor_iff]; grind
  simp only [nearestInteger, floor]
  have h1 : ¬ ((n : Rat) + 1 / 2 - n < 1 / 2) := by grind
  have h2 : ¬ (1 / 2 < (n : Rat) + 1 / 2 - n) := by grind
  rw [if_neg h1, if_neg h2]
  split
  · assumption
  · omega

/-- An integer is nearest to itself. -/
@[simp] theorem nearestInteger_intCast (n : Int) : nearestInteger (n : Rat) = n := by
  have excess : (n : Rat) - (n : Rat) < 1 / 2 := by grind
  simp only [nearestInteger, Rat.floor_intCast]
  rw [if_pos excess]

/-- Zero is on every grid. -/
@[simp] theorem BinaryFormat.round_zero (format : BinaryFormat) : format.round 0 = 0 := rfl

end Vivarium
