import Mathlib.Algebra.Order.AbsoluteValue.Basic
import Vivarium.Proofs.Number.IntegerPart

/-!
# Finite doubles

Below two to the power of fifty-three, where the doubles are no more than one apart, rounding moves a
number by one half at most, and sums, products and quotients are finite. What is finite has an
integer part.
-/

namespace Vivarium

/-- Below two to the power of fifty-three rounding moves a number by one half at most. -/
theorem BinaryFormat.abs_round_sub_le {x : Rat} (h : |x| < 2 ^ 53) :
    |binary64.round x - x| ≤ 1 / 2 := by
  by_cases zero : x = 0
  · rw [zero, round_zero, sub_zero, abs_zero]
    norm_num
  · have small : (2 : Rat) ^ binade x < 2 ^ (53 : Int) :=
      (two_zpow_binade_le_abs zero).trans_lt (by exact_mod_cast h)
    have exponent := (zpow_lt_zpow_iff_right₀ (by norm_num)).mp small
    have unit : (2 : Rat) ^ binary64.unitExponent x ≤ 1 := by
      refine zpow_le_one_of_nonpos₀ (by norm_num) ?_
      simp only [unitExponent, binary64]
      omega
    obtain ⟨below, above⟩ := binary64.round_near zero
    rw [abs_le]
    constructor <;> linarith

namespace Double

/-- Whether a double stands for a number that is at most one half away from another one. -/
def Near (x : Double) (a : Rat) : Prop :=
  ∃ b, x.toRat? = some b ∧ |b - a| ≤ 1 / 2

variable {x y : Double} {a b : Rat}

/-- A zero of either sign stands for zero. -/
theorem toRat?_zero (negative : Bool) : (zero negative).toRat? = some 0 := by
  cases negative <;> rfl

/-- A finite double is near to the number that it stands for. -/
theorem near_of_toRat? (h : x.toRat? = some a) : x.Near a :=
  ⟨a, h, by rw [sub_self, abs_zero]; norm_num⟩

/-- A number below two to the power of fifty-three is rounded to a finite double. -/
theorem near_ofRat (h : |a| < 2 ^ 53) : (ofRat a).Near a := by
  have near := BinaryFormat.abs_round_sub_le h
  have small : BinaryFormat.binary64.overflows (BinaryFormat.binary64.round a) = false := by
    have bound := abs_sub_abs_le_abs_sub (BinaryFormat.binary64.round a) a
    have ceiling : (2 : Rat) ^ (54 : Int) ≤ 2 ^ BinaryFormat.binary64.ceiling :=
      zpow_le_zpow_right₀ (by norm_num) (by decide)
    rw [BinaryFormat.overflows, decide_eq_false_iff_not, not_le, rat_abs_eq]
    refine lt_of_lt_of_le ?_ ceiling
    norm_num at h ⊢
    linarith
  rw [ofRat, small]
  simp only [Bool.false_eq_true, if_false]
  split
  · rename_i vanishes
    rw [vanishes] at near
    exact ⟨0, toRat?_zero _, near⟩
  · exact ⟨_, rfl, near⟩

/-- The opposite of a finite double stands for the opposite number. -/
theorem toRat?_neg (h : x.toRat? = some a) : x.neg.toRat? = some (-a) := by
  cases x with
  | finite value =>
    obtain rfl : value = a := Option.some.inj h
    rw [neg]
    split
    · rename_i vanishes
      rw [vanishes, neg_zero]
      rfl
    · rfl
  | negZero =>
    obtain rfl : 0 = a := Option.some.inj h
    rfl
  | infinite | nan => cases h

/-- The sum of finite doubles is near to that of the numbers that they stand for. -/
theorem near_add (hx : x.toRat? = some a) (hy : y.toRat? = some b) (h : |a + b| < 2 ^ 53) :
    (x + y).Near (a + b) := by
  cases x with
  | infinite | nan => cases hx
  | negZero =>
    obtain rfl : 0 = a := Option.some.inj hx
    rw [zero_add]
    cases y with
    | infinite | nan => cases hy
    | negZero | finite => exact near_of_toRat? hy
  | finite value =>
    obtain rfl : value = a := Option.some.inj hx
    cases y with
    | infinite | nan => cases hy
    | negZero =>
      obtain rfl : 0 = b := Option.some.inj hy
      rw [add_zero]
      exact near_of_toRat? hx
    | finite value' =>
      obtain rfl : value' = b := Option.some.inj hy
      exact near_ofRat h

/-- The product of finite doubles is near to that of the numbers that they stand for. -/
theorem near_mul (hx : x.toRat? = some a) (hy : y.toRat? = some b) (h : |a * b| < 2 ^ 53) :
    (x * y).Near (a * b) := by
  change (mul x y).Near (a * b)
  simp only [mul, hx, hy]
  split
  · rename_i vanishes
    rw [vanishes]
    exact near_of_toRat? (toRat?_zero _)
  · exact near_ofRat h

/-- A quotient of integers below two to the power of fifty-three is a finite double. -/
theorem exists_near_ofQuotient {dividend divisor : Int} (hd : divisor ≠ 0)
    (h : |(dividend : Rat) / divisor| < 2 ^ 53) :
    ∃ x, ofQuotient dividend divisor = .ok x ∧ x.Near (dividend / divisor) := by
  rw [ofQuotient, if_neg hd]
  split
  · rename_i nothing
    rw [nothing, Int.cast_zero, zero_div]
    exact ⟨_, rfl, near_of_toRat? (toRat?_zero _)⟩
  · have near := near_ofRat h
    generalize ofRat ((dividend : Rat) / divisor) = x at *
    cases x with
    | infinite =>
      obtain ⟨_, unlimited, _⟩ := near
      cases unlimited
    | finite | negZero | nan => exact ⟨_, rfl, near⟩

/-- What is finite has an integer part. -/
theorem exists_truncate_of_toRat? (h : x.toRat? = some a) : ∃ n, x.truncate = .ok n := by
  cases x with
  | finite value => exact exists_truncate_finite value
  | negZero => exact ⟨0, rfl⟩
  | infinite | nan => cases h

end Double

end Vivarium
