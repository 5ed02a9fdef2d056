import Vivarium.Number.Double

/-!
# Square roots

The square root of a natural number rounded down, and the square root of a double rounded to the
nearest double. The main statement is that `floorSqrt` lies between the two squares it should.
-/

namespace Vivarium

/-- The greatest natural number whose square is at most `n`, found two bits of `n` at a time. -/
def floorSqrt (n : Nat) : Nat :=
  if h : n = 0 then 0
  else
    let doubled := 2 * floorSqrt (n / 4)
    if (doubled + 1) * (doubled + 1) ≤ n then doubled + 1 else doubled
termination_by n
decreasing_by omega

/-- The rounded root is not too large. -/
theorem floorSqrt_le (n : Nat) : floorSqrt n * floorSqrt n ≤ n := by
  induction n using Nat.strongRecOn with
  | ind n ih =>
    rw [floorSqrt]
    split
    · omega
    · have := ih (n / 4) (by omega)
      dsimp only
      split
      · assumption
      · have h4 : n / 4 * 4 ≤ n := Nat.div_mul_le_self n 4
        have : 2 * floorSqrt (n / 4) * (2 * floorSqrt (n / 4)) =
            floorSqrt (n / 4) * floorSqrt (n / 4) * 4 := by
          rw [Nat.mul_mul_mul_comm]
          omega
        omega

/-- The rounded root is not too small. -/
theorem lt_succ_floorSqrt (n : Nat) : n < (floorSqrt n + 1) * (floorSqrt n + 1) := by
  induction n using Nat.strongRecOn with
  | ind n ih =>
    rw [floorSqrt]
    split
    · omega
    · have below := ih (n / 4) (by omega)
      dsimp only
      split
      · generalize floorSqrt (n / 4) = r at *
        have : (2 * r + 1 + 1) * (2 * r + 1 + 1) = (r + 1) * (r + 1) * 4 := by
          have : 2 * r + 1 + 1 = 2 * (r + 1) := by omega
          rw [this, Nat.mul_mul_mul_comm]
          omega
        omega
      · omega

namespace Double

/-- The double nearest to the square root of a positive double. Its unit is known from half the
magnitude of `x`, and no square root lies midway between two doubles. -/
def positiveSqrt (x : Rat) : Rat :=
  let exponent := (binade x).fdiv 2 - 52
  let unit := (2 : Rat) ^ exponent
  let below := floorSqrt (x / (unit * unit)).floor.toNat
  let middle := (below + 1 / 2) * unit
  if x < middle * middle then below * unit else (below + 1) * unit

/-- The square root, undefined for numbers below zero. -/
def sqrt : Double → Double
  | .finite x => if x = 0 then .finite 0 else if x < 0 then .nan else .finite (positiveSqrt x)
  | .negZero => .negZero
  | .infinite negative => if negative then .nan else .infinite false
  | .nan => .nan

end Double

end Vivarium
