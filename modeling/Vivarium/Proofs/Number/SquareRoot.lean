import Mathlib.Analysis.Real.Sqrt
import Vivarium.Number.Root
import Vivarium.Proofs.Number.IntegerPart

/-!
# Integer parts of square roots

The square root of a double is the double nearest to the exact root. This alone settles its integer
part for integers below two to the power of fifty-two. As integers are doubles, a nearest double is
not below the integer part of the exact root. And as the root stays one part in two to the power of
twenty-seven below the next integer, there is a double between them, which a nearest one is not above.
-/

namespace Vivarium

/-- No greater number has a square up to a number than its root rounded down. -/
theorem le_floorSqrt {m n : Nat} (h : m * m ≤ n) : m ≤ floorSqrt n := by
  have above := lt_succ_floorSqrt n
  exact Nat.lt_succ_iff.mp (Nat.mul_self_lt_mul_self_iff.mp (h.trans_lt above))

/-- The root rounded down is below a number with a greater square. -/
theorem floorSqrt_lt {m n : Nat} (h : n < m * m) : floorSqrt n < m :=
  Nat.mul_self_lt_mul_self_iff.mp ((floorSqrt_le n).trans_lt h)

/-- A number is not above the root of another one if its square is not. -/
theorem cast_le_sqrt {x y : Rat} (h : y * y ≤ x) : y ≤ √(x : ℝ) := by
  apply Real.le_sqrt_of_sq_le
  rw [sq]
  exact_mod_cast h

/-- A number is not below the root of another one if its square is not. -/
theorem sqrt_le_cast {x y : Rat} (nonneg : 0 ≤ y) (h : x ≤ y * y) : √(x : ℝ) ≤ y := by
  rw [Real.sqrt_le_left (by exact_mod_cast nonneg), sq]
  exact_mod_cast h

/-- The root rounded down to a multiple of a unit lies between the two squares that it should. -/
theorem floorSqrt_units {x unit : Rat} (h : 0 ≤ x) (hu : 0 < unit) :
    (floorSqrt (x / (unit * unit)).floor.toNat * unit) *
        (floorSqrt (x / (unit * unit)).floor.toNat * unit) ≤ x ∧
      x ≤ ((floorSqrt (x / (unit * unit)).floor.toNat + 1) * unit) *
        ((floorSqrt (x / (unit * unit)).floor.toNat + 1) * unit) := by
  have area : 0 < unit * unit := mul_pos hu hu
  have below := Rat.floor_le (x / (unit * unit))
  have above := Rat.lt_floor_add_one (x / (unit * unit))
  have nonneg : 0 ≤ (x / (unit * unit)).floor :=
    Rat.le_floor_iff.mpr (by exact_mod_cast (by positivity : 0 ≤ x / (unit * unit)))
  have whole : (((x / (unit * unit)).floor.toNat : Nat) : Rat) = (x / (unit * unit)).floor := by
    exact_mod_cast Int.toNat_of_nonneg nonneg
  have lower := floorSqrt_le (x / (unit * unit)).floor.toNat
  have upper := lt_succ_floorSqrt (x / (unit * unit)).floor.toNat
  generalize floorSqrt (x / (unit * unit)).floor.toNat = root at *
  constructor
  · have square : (root * root : Rat) ≤ x / (unit * unit) := by
      refine le_trans ?_ below
      rw [← whole]
      exact_mod_cast lower
    rwa [le_div_iff₀ area, ← mul_mul_mul_comm] at square
  · have square : x / (unit * unit) ≤ (root + 1) * (root + 1) := by
      refine above.le.trans ?_
      push_cast
      rw [← whole]
      exact_mod_cast upper
    rwa [div_le_iff₀ area, ← mul_mul_mul_comm] at square

namespace Double

/-- Integers below two to the power of fifty-three have a double, which is the integer itself. -/
theorem ofInt_natCast {n : Nat} (h : n < 2 ^ 53) : ofInt n = .ok (.finite n) := by
  have nonneg : 0 ≤ (n : Int) := Int.natCast_nonneg n
  have below : (n : Int) < 2 ^ 53 := by exact_mod_cast h
  have small : ((n : Int) : Rat) ≤ 2 ^ (53 : Int) := by exact_mod_cast h.le
  rw [ofInt_of_le_zpow (normal_intCast nonneg) (by norm_num) small,
    BinaryFormat.round_intCast nonneg below, Int.cast_natCast]

/-- The root of a double is a multiple of its unit, at most one half of the unit away from the exact
root. -/
theorem exists_units_positiveSqrt {x unit : Rat} (h : 0 < x)
    (hu : unit = 2 ^ ((binade x).fdiv 2 - 52)) :
    ∃ m : Int, positiveSqrt x = m * unit ∧ |√(x : ℝ) - m * unit| ≤ unit / 2 := by
  have positive : 0 < unit := by
    rw [hu]
    positivity
  obtain ⟨lower, upper⟩ := floorSqrt_units h.le positive
  rw [positiveSqrt, ← hu]
  generalize floorSqrt (x / (unit * unit)).floor.toNat = below at *
  have floor := cast_le_sqrt lower
  have ceil := sqrt_le_cast (by positivity) upper
  split
  · rename_i short
    have middle := sqrt_le_cast (by positivity) short.le
    refine ⟨below, rfl, ?_⟩
    push_cast at *
    rw [abs_le]
    constructor <;> linarith
  · rename_i long
    have middle := cast_le_sqrt (not_lt.mp long)
    refine ⟨below + 1, by push_cast; rfl, ?_⟩
    push_cast at *
    rw [abs_le]
    constructor <;> linarith

/-- The root of a positive double is the double nearest to the exact root. -/
theorem isNearest_positiveSqrt {x : Rat} (h : 2 ^ (-1074 : Int) ≤ x) :
    BinaryFormat.binary64.IsNearest √(x : ℝ) (positiveSqrt x) := by
  have positive : 0 < x := lt_of_lt_of_le (by positivity) h
  have least := two_zpow_binade_le positive
  have most := lt_two_zpow_binade_add_one positive
  have exponent : -1074 < binade x + 1 :=
    (zpow_lt_zpow_iff_right₀ (by norm_num)).mp (h.trans_lt most)
  obtain ⟨m, value, near⟩ := exists_units_positiveSqrt positive rfl
  have half : (binade x).fdiv 2 = binade x / 2 := Int.fdiv_eq_ediv_of_nonneg _ (by decide)
  rw [half] at value near
  have floor : ((2 ^ (binade x / 2) : Rat) : ℝ) ≤ √(x : ℝ) := by
    apply cast_le_sqrt
    rw [← zpow_add₀ two_ne_zero]
    exact (zpow_le_zpow_right₀ (by norm_num) (by omega)).trans least
  have ceil : √(x : ℝ) ≤ ((2 ^ (binade x / 2 + 1) : Rat) : ℝ) := by
    apply sqrt_le_cast (by positivity)
    rw [← zpow_add₀ two_ne_zero]
    exact most.le.trans (zpow_le_zpow_right₀ (by norm_num) (by omega))
  have magnitude := abs_of_nonneg (Real.sqrt_nonneg x)
  push_cast at near floor ceil
  rw [value]
  refine BinaryFormat.isNearest_mul_zpow (by decide) ?_ (.inr ?_) ?_ near
  · simp only [BinaryFormat.binary64]
    omega
  · rw [magnitude]
    exact (zpow_le_zpow_right₀ (by norm_num) (by simp [BinaryFormat.binary64])).trans floor
  · rw [magnitude]
    refine ceil.trans (zpow_le_zpow_right₀ (by norm_num) ?_)
    simp only [BinaryFormat.binary64]
    omega

/-- A double that is nearest to the root of an integer below two to the power of fifty-two has the
integer part of the exact root. -/
theorem truncate_of_isNearest_sqrt {n : Nat} (h : n < 2 ^ 52) {y : Rat}
    (nearest : BinaryFormat.binary64.IsNearest √((n : Rat) : ℝ) y) :
    truncate (.finite y) = .ok (floorSqrt n) := by
  have small : floorSqrt n < 2 ^ 26 := floorSqrt_lt (by norm_num; exact h)
  have lower := floorSqrt_le n
  have upper : n + 1 ≤ (floorSqrt n + 1) * (floorSqrt n + 1) := lt_succ_floorSqrt n
  generalize floorSqrt n = root at *
  have below : (root : Rat) ≤ y := by
    have whole : BinaryFormat.binary64.Has ((root : Int) : Rat) :=
      BinaryFormat.has_intCast (by rw [abs_of_nonneg (by omega)]; omega)
    rw [Int.cast_natCast] at whole
    exact nearest.ge_of_has whole (cast_le_sqrt (by exact_mod_cast lower))
  have above : y < root + 1 := by
    -- There is a double between the root and the next integer.
    have fine : BinaryFormat.binary64.Has (root + 1 - 1 / 2 ^ 27) := by
      refine ⟨(root + 1) * 2 ^ 27 - 1, -27, ?_, by decide, ?_⟩
      · rw [abs_of_nonneg (by omega)]
        simp only [BinaryFormat.binary64]
        omega
      · rw [zpow_neg, zpow_ofNat]
        push_cast
        ring
    have square : (n : Rat) + 1 ≤ (root + 1) * (root + 1) := by exact_mod_cast upper
    have width : (root : Rat) + 1 ≤ 2 ^ 26 := by exact_mod_cast small
    have nonneg : (0 : Rat) ≤ root := by positivity
    have near := nearest.le_of_has fine (sqrt_le_cast (by linarith) (by linarith))
    linarith
  rw [truncate, if_neg (not_lt.mpr (le_trans (by positivity) below)), Except.ok.injEq]
  apply le_antisymm
  · rw [← Int.lt_add_one_iff]
    exact_mod_cast (Rat.floor_le _).trans_lt above
  · exact Rat.le_floor_iff.mpr below

/-- The root of an integer below two to the power of fifty-two has the integer part of the exact
root. -/
theorem truncate_sqrt_natCast {n : Nat} (h : n < 2 ^ 52) :
    (Double.finite n).sqrt.truncate = .ok (floorSqrt n) := by
  rcases Nat.eq_zero_or_pos n with rfl | positive
  · rw [floorSqrt, dif_pos rfl]
    rfl
  · have above : (0 : Rat) < n := by exact_mod_cast positive
    have one : (1 : Rat) ≤ n := by exact_mod_cast positive
    have least : (2 : Rat) ^ (-1074 : Int) ≤ n :=
      (zpow_le_one_of_nonpos₀ (by norm_num) (by norm_num)).trans one
    rw [sqrt, if_neg above.ne', if_neg above.not_gt]
    exact truncate_of_isNearest_sqrt h (isNearest_positiveSqrt least)

end Double

end Vivarium
