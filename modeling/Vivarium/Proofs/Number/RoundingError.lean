import Mathlib.Algebra.Order.Field.Power
import Mathlib.Algebra.Order.Field.Rat
import Mathlib.Tactic.Linarith
import Mathlib.Tactic.NormNum
import Mathlib.Tactic.Positivity
import Mathlib.Tactic.Ring
import Vivarium.Number.Double

/-!
# Rounding errors

A positive number that is not too small for the grid of doubles is rounded by at most one part in
two to the power of fifty-three. Nothing that is not negative becomes negative by rounding.
-/

namespace Vivarium

/-- The power of two of its binade is no greater than a number. -/
theorem two_zpow_binade_le {x : Rat} (h : 0 < x) : (2 : Rat) ^ binade x ≤ x := by
  have magnitude : x.abs = x := by rw [Rat.abs, if_pos h.le]
  simp only [binade, magnitude]
  split
  · assumption
  · have top : ((2 ^ x.num.natAbs.log2 : Nat) : Rat) ≤ x.num := by
      have positive : 0 < x.num := Rat.num_pos.mpr h
      have least := Nat.log2_self_le (n := x.num.natAbs) (by omega)
      have cast : ((2 ^ x.num.natAbs.log2 : Nat) : Int) ≤ x.num := by omega
      exact_mod_cast cast
    have bottom : (x.den : Rat) ≤ (2 ^ (x.den.log2 + 1) : Nat) := by
      exact_mod_cast Nat.lt_log2_self.le
    have split : (2 : Rat) ^ ((x.num.natAbs.log2 : Int) - (x.den.log2 : Int) - 1) =
        ((2 ^ x.num.natAbs.log2 : Nat) : Rat) / ((2 ^ (x.den.log2 + 1) : Nat) : Rat) := by
      rw [sub_sub, zpow_sub₀ (by norm_num)]
      norm_cast
    calc
      (2 : Rat) ^ ((x.num.natAbs.log2 : Int) - (x.den.log2 : Int) - 1)
        = ((2 ^ x.num.natAbs.log2 : Nat) : Rat) / ((2 ^ (x.den.log2 + 1) : Nat) : Rat) := split
      _ ≤ x.num / x.den := by
        gcongr
      _ = x := x.num_div_den

/-- The next power of two is greater than a number. -/
theorem lt_two_zpow_binade_add_one {x : Rat} (h : 0 < x) : x < (2 : Rat) ^ (binade x + 1) := by
  have magnitude : x.abs = x := by rw [Rat.abs, if_pos h.le]
  simp only [binade, magnitude]
  split
  · have top : (x.num : Rat) < (2 ^ (x.num.natAbs.log2 + 1) : Nat) := by
      have positive : 0 < x.num := Rat.num_pos.mpr h
      have most := Nat.lt_log2_self (n := x.num.natAbs)
      have cast : x.num < ((2 ^ (x.num.natAbs.log2 + 1) : Nat) : Int) := by omega
      exact_mod_cast cast
    have bottom : ((2 ^ x.den.log2 : Nat) : Rat) ≤ x.den := by
      exact_mod_cast Nat.log2_self_le x.den_nz
    have split : (2 : Rat) ^ ((x.num.natAbs.log2 : Int) - (x.den.log2 : Int) + 1) =
        ((2 ^ (x.num.natAbs.log2 + 1) : Nat) : Rat) / ((2 ^ x.den.log2 : Nat) : Rat) := by
      rw [sub_add_eq_add_sub, zpow_sub₀ (by norm_num)]
      norm_cast
    calc
      x = x.num / x.den := x.num_div_den.symm
      _ < ((2 ^ (x.num.natAbs.log2 + 1) : Nat) : Rat) / ((2 ^ x.den.log2 : Nat) : Rat) := by
        gcongr
      _ = (2 : Rat) ^ ((x.num.natAbs.log2 : Int) - (x.den.log2 : Int) + 1) := split.symm
  · rw [sub_add_cancel]
    exact not_le.mp ‹_›

/-- The magnitude of a rational number is its absolute value. -/
theorem rat_abs_eq (x : Rat) : x.abs = |x| := by
  rw [Rat.abs]
  split
  · rename_i nonneg
    rw [abs_of_nonneg nonneg]
  · rename_i negative
    rw [abs_of_neg (not_le.mp negative)]

/-- The binade of a number is that of its opposite. -/
theorem binade_neg (x : Rat) : binade (-x) = binade x := by
  simp only [binade, Rat.num_neg_eq_neg_num, Rat.den_neg_eq_den, Int.natAbs_neg, rat_abs_eq,
    abs_neg]

/-- The power of two of its binade is no greater than the magnitude of a number. -/
theorem two_zpow_binade_le_abs {x : Rat} (h : x ≠ 0) : (2 : Rat) ^ binade x ≤ |x| := by
  rcases lt_or_gt_of_ne h with negative | positive
  · rw [abs_of_neg negative, ← binade_neg]
    exact two_zpow_binade_le (neg_pos.mpr negative)
  · rw [abs_of_pos positive]
    exact two_zpow_binade_le positive

/-- The next power of two is greater than the magnitude of a number. -/
theorem abs_lt_two_zpow_binade_add_one {x : Rat} (h : x ≠ 0) :
    |x| < (2 : Rat) ^ (binade x + 1) := by
  rcases lt_or_gt_of_ne h with negative | positive
  · rw [abs_of_neg negative, ← binade_neg]
    exact lt_two_zpow_binade_add_one (neg_pos.mpr negative)
  · rw [abs_of_pos positive]
    exact lt_two_zpow_binade_add_one positive

namespace BinaryFormat

/-- A number is rounded by at most one half of its unit. -/
theorem round_near (format : BinaryFormat) {x : Rat} (h : x ≠ 0) :
    x - (2 : Rat) ^ format.unitExponent x / 2 ≤ format.round x ∧
      format.round x ≤ x + (2 : Rat) ^ format.unitExponent x / 2 := by
  have positive : (0 : Rat) < 2 ^ format.unitExponent x := by positivity
  rw [round, if_neg h]
  dsimp only
  generalize (2 : Rat) ^ format.unitExponent x = unit at *
  obtain ⟨below, above⟩ := nearestInteger_near (x / unit)
  have whole : x / unit * unit = x := div_mul_cancel₀ x positive.ne'
  constructor
  · calc
      x - unit / 2 = (x / unit - 1 / 2) * unit := by rw [sub_mul, whole]; ring
      _ ≤ nearestInteger (x / unit) * unit := by gcongr
  · calc
      nearestInteger (x / unit) * unit ≤ (x / unit + 1 / 2) * unit := by gcongr
      _ = x + unit / 2 := by rw [add_mul, whole]; ring

/-- Nothing that is not negative becomes negative by rounding. -/
theorem round_nonneg (format : BinaryFormat) {x : Rat} (h : 0 ≤ x) : 0 ≤ format.round x := by
  by_cases zero : x = 0
  · rw [zero, round_zero]
  · have positive : (0 : Rat) < 2 ^ format.unitExponent x := by positivity
    have quotient : 0 ≤ x / 2 ^ format.unitExponent x := by positivity
    obtain ⟨below, -⟩ := nearestInteger_near (x / 2 ^ format.unitExponent x)
    have whole : -1 < nearestInteger (x / 2 ^ format.unitExponent x) := by
      have above : (-1 : Rat) < nearestInteger (x / 2 ^ format.unitExponent x) := by linarith
      exact_mod_cast above
    have integer : (0 : Rat) ≤ nearestInteger (x / 2 ^ format.unitExponent x) := by
      exact_mod_cast (by omega : 0 ≤ nearestInteger (x / 2 ^ format.unitExponent x))
    rw [round, if_neg zero]
    positivity

end BinaryFormat

namespace Double

/-- Whether rounding to a double is relative to a number: it is zero, or not too small. -/
def Normal (x : Rat) : Prop :=
  x = 0 ∨ (2 : Rat) ^ (-1022 : Int) ≤ x

/-- Numbers from one hundredth on are not too small. -/
theorem normal_of_hundredth_le {x : Rat} (h : 1 / 100 ≤ x) : Normal x := by
  refine .inr (le_trans ?_ h)
  calc
    (2 : Rat) ^ (-1022 : Int) ≤ 2 ^ (-7 : Int) := zpow_le_zpow_right₀ (by norm_num) (by norm_num)
    _ ≤ 1 / 100 := by norm_num

/-- Integers that are not negative are not too small. -/
theorem normal_intCast {n : Int} (h : 0 ≤ n) : Normal n := by
  rcases h.eq_or_lt with zero | positive
  · exact .inl (by rw [← zero, Int.cast_zero])
  · have one : (1 : Rat) ≤ n := by exact_mod_cast positive
    exact normal_of_hundredth_le (by linarith)

/-- A number is not negative if rounding is relative to it. -/
theorem Normal.nonneg {x : Rat} (h : Normal x) : 0 ≤ x := by
  rcases h with zero | large
  · exact zero.ge
  · exact le_trans (by positivity) large

/-- One half of the unit of a number is a small part of it. -/
theorem half_unit_le {x : Rat} (h : (2 : Rat) ^ (-1022 : Int) ≤ x) :
    (2 : Rat) ^ BinaryFormat.binary64.unitExponent x / 2 ≤ x / 2 ^ 53 := by
  have positive : 0 < x := lt_of_lt_of_le (by positivity) h
  have unit : (2 : Rat) ^ BinaryFormat.binary64.unitExponent x ≤ x * 2 ^ (-52 : Int) := by
    simp only [BinaryFormat.unitExponent, BinaryFormat.binary64]
    rcases le_total (binade x - ((53 : Nat) - 1 : Int)) (-1074) with fine | coarse
    · rw [max_eq_right fine]
      calc
        (2 : Rat) ^ (-1074 : Int) = 2 ^ (-1022 : Int) * 2 ^ (-52 : Int) := by
          rw [← zpow_add₀ (by norm_num)]
          rfl
        _ ≤ x * 2 ^ (-52 : Int) := by gcongr
    · rw [max_eq_left coarse]
      calc
        (2 : Rat) ^ (binade x - ((53 : Nat) - 1 : Int)) = 2 ^ binade x * 2 ^ (-52 : Int) := by
          rw [← zpow_add₀ (by norm_num)]
          rfl
        _ ≤ x * 2 ^ (-52 : Int) := by
          gcongr
          exact two_zpow_binade_le positive
  calc
    (2 : Rat) ^ BinaryFormat.binary64.unitExponent x / 2 ≤ x * 2 ^ (-52 : Int) / 2 := by gcongr
    _ = x / 2 ^ 53 := by
      rw [mul_div_assoc, div_eq_mul_one_div x]
      norm_num

/-- How much a number grows at most when it is rounded to a double. -/
def growth : Rat := 1 + 1 / 2 ^ 53

/-- Rounding lets a number grow by one part in two to the power of fifty-three at most. -/
theorem round_le_mul_growth {x : Rat} (h : Normal x) :
    BinaryFormat.binary64.round x ≤ x * growth := by
  rcases h with zero | large
  · rw [zero, BinaryFormat.round_zero, zero_mul]
  · have positive : 0 < x := lt_of_lt_of_le (by positivity) large
    have near := (BinaryFormat.binary64.round_near positive.ne').2
    have small := half_unit_le large
    rw [growth]
    linarith

/-- Rounding leaves at least one half of a number. -/
theorem half_le_round {x : Rat} (h : Normal x) : x / 2 ≤ BinaryFormat.binary64.round x := by
  rcases h with zero | large
  · rw [zero, BinaryFormat.round_zero, zero_div]
  · have positive : 0 < x := lt_of_lt_of_le (by positivity) large
    have near := (BinaryFormat.binary64.round_near positive.ne').1
    have small := half_unit_le large
    have part : x / 2 ^ 53 ≤ x / 2 := by
      gcongr
      norm_num
    linarith

/-- Zero is a double. -/
theorem ofRat_zero : ofRat 0 = .finite 0 := by
  have positive : (0 : Rat) < 2 ^ BinaryFormat.binary64.ceiling := by positivity
  have small : BinaryFormat.binary64.overflows 0 = false := by
    rw [BinaryFormat.overflows, decide_eq_false_iff_not, not_le, Rat.abs, if_pos le_rfl]
    exact positive
  simp [ofRat, small, zero]

/-- The double nearest to a number that is not negative is finite, unless the number is too
large. -/
theorem ofRat_of_nonneg {x : Rat} (h : 0 ≤ x) :
    ofRat x = .infinite false ∨ ofRat x = .finite (BinaryFormat.binary64.round x) := by
  have sign : decide (x < 0) = false := by simpa using h
  simp only [ofRat, sign]
  split
  · exact .inl rfl
  · split
    · rename_i vanishes
      rw [vanishes]
      exact .inr rfl
    · exact .inr rfl

/-- The integer part of a double near a number that is not negative. -/
theorem bounds_of_truncate_ofRat {x : Rat} (h : Normal x) {n : Int}
    (hn : (ofRat x).truncate = .ok n) : 0 ≤ n ∧ (n : Rat) ≤ x * growth := by
  have rounded := BinaryFormat.binary64.round_nonneg h.nonneg
  rcases ofRat_of_nonneg h.nonneg with infinite | finite
  · rw [infinite] at hn
    contradiction
  · rw [finite, truncate, if_neg (not_lt.mpr rounded)] at hn
    cases hn
    refine ⟨?_, (Rat.floor_le _).trans (round_le_mul_growth h)⟩
    rw [Rat.le_floor_iff]
    exact_mod_cast rounded

/-- A number that stays below the ceiling of doubles when it grows is rounded to a finite double. -/
theorem ofRat_of_lt_ceiling {x : Rat} (h : Normal x) (h' : x * growth < 2 ^ (1024 : Int)) :
    ofRat x = .finite (BinaryFormat.binary64.round x) := by
  have rounded := BinaryFormat.binary64.round_nonneg h.nonneg
  have small : BinaryFormat.binary64.overflows (BinaryFormat.binary64.round x) = false := by
    rw [BinaryFormat.overflows, decide_eq_false_iff_not, not_le, Rat.abs, if_pos rounded]
    exact (round_le_mul_growth h).trans_lt h'
  rcases ofRat_of_nonneg h.nonneg with infinite | finite
  · rw [ofRat, small] at infinite
    simp only [Bool.false_eq_true, if_false] at infinite
    split at infinite
    · rw [zero] at infinite
      split at infinite <;> contradiction
    · contradiction
  · exact finite

/-- A number up to a power of two below the ceiling of doubles stays below the ceiling when it
grows. -/
theorem mul_growth_lt_ceiling {x : Rat} {k : Int} (hk : k < 1024) (h : x ≤ 2 ^ k) :
    x * growth < 2 ^ (1024 : Int) := by
  have positive : (0 : Rat) < 2 ^ k := by positivity
  calc
    x * growth ≤ 2 ^ k * growth := by
      rw [growth]
      gcongr
    _ < 2 ^ k * 2 := by
      rw [growth]
      gcongr
      norm_num
    _ = 2 ^ (k + 1) := (zpow_add_one₀ (by norm_num) k).symm
    _ ≤ 2 ^ (1024 : Int) := zpow_le_zpow_right₀ (by norm_num) hk

/-- A number up to a power of two below the ceiling of doubles is rounded to a finite double. -/
theorem ofRat_of_le_zpow {x : Rat} {k : Int} (h : Normal x) (hk : k < 1024) (h' : x ≤ 2 ^ k) :
    ofRat x = .finite (BinaryFormat.binary64.round x) :=
  ofRat_of_lt_ceiling h (mul_growth_lt_ceiling hk h')

/-- A number of the unit interval is rounded to a finite double. -/
theorem ofRat_of_le_one {x : Rat} (h : Normal x) (h' : x ≤ 1) :
    ofRat x = .finite (BinaryFormat.binary64.round x) :=
  ofRat_of_le_zpow h (by decide) (k := 0) h'

/-- An integer has the double that it is rounded to, unless that is out of range. -/
theorem ofInt_eq (n : Int) :
    ofInt n =
      if BinaryFormat.binary64.overflows (BinaryFormat.binary64.round n) then
        .error .integerTooLarge
      else .ok (ofRat n) := by
  unfold ofInt
  by_cases out : BinaryFormat.binary64.overflows (BinaryFormat.binary64.round n)
  · have infinite : ofRat n = .infinite ((n : Rat) < 0) := by
      rw [ofRat]
      exact if_pos out
    rw [if_pos out, infinite]
  · have finite : ofRat n = if BinaryFormat.binary64.round n = 0 then zero ((n : Rat) < 0)
        else .finite (BinaryFormat.binary64.round n) := by
      rw [ofRat]
      exact if_neg out
    rw [if_neg out, finite]
    by_cases vanishes : BinaryFormat.binary64.round n = 0
    · rw [if_pos vanishes]
      generalize decide ((n : Rat) < 0) = negative
      cases negative <;> rfl
    · rw [if_neg vanishes]

/-- An integer that is not negative and has a double is rounded to a finite one. -/
theorem ofInt_eq_ok {n : Int} (h : 0 ≤ n) {x : Double} (hx : ofInt n = .ok x) :
    x = .finite (BinaryFormat.binary64.round n) := by
  have nonneg : (0 : Rat) ≤ n := by exact_mod_cast h
  have rounded := ofRat_of_nonneg nonneg
  unfold ofInt at hx
  generalize ofRat n = y at *
  rcases rounded with rfl | rfl
  · contradiction
  · exact (Except.ok.inj hx).symm

/-- A quotient of integers with a positive divisor is rounded like a number. -/
theorem ofQuotient_eq_ok {dividend divisor : Int} (h : 0 < divisor) {x : Double}
    (hx : ofQuotient dividend divisor = .ok x) : x = ofRat (dividend / divisor) := by
  rw [ofQuotient, if_neg h.ne'] at hx
  by_cases nothing : dividend = 0
  · have sign : decide (divisor < 0) = false := by simpa using h.le
    rw [if_pos nothing, sign, Except.ok.injEq] at hx
    rw [← hx, nothing, Int.cast_zero, zero_div, ofRat_zero]
    rfl
  · rw [if_neg nothing] at hx
    split at hx
    · contradiction
    · exact (Except.ok.inj hx).symm

/-- An integer up to a power of two below the ceiling of doubles has a finite double. -/
theorem ofInt_of_le_zpow {n : Int} {k : Int} (h : Normal n) (hk : k < 1024)
    (h' : (n : Rat) ≤ 2 ^ k) : ofInt n = .ok (.finite (BinaryFormat.binary64.round n)) := by
  have finite := ofRat_of_le_zpow h hk h'
  unfold ofInt
  generalize ofRat n = x at *
  subst finite
  rfl

/-- An integer that is not negative and has a double is rounded below the ceiling of doubles. -/
theorem round_lt_ceiling {n : Int} (h : 0 ≤ n) {x : Double} (hx : ofInt n = .ok x) :
    BinaryFormat.binary64.round n < 2 ^ (1024 : Int) := by
  have rounded := BinaryFormat.binary64.round_nonneg (normal_intCast h).nonneg
  rw [ofInt_eq] at hx
  split at hx
  · contradiction
  · rename_i inside
    rwa [BinaryFormat.overflows, decide_eq_true_iff, Rat.abs, if_pos rounded, not_le] at inside

/-- A quotient of integers that stays below the ceiling of doubles when it grows is a finite
double. -/
theorem ofQuotient_of_lt_ceiling {dividend divisor : Int} (hd : 0 < divisor)
    (h : Normal ((dividend : Rat) / divisor))
    (h' : (dividend : Rat) / divisor * growth < 2 ^ (1024 : Int)) :
    ofQuotient dividend divisor =
      .ok (.finite (BinaryFormat.binary64.round ((dividend : Rat) / divisor))) := by
  rw [ofQuotient, if_neg hd.ne']
  by_cases nothing : dividend = 0
  · have sign : decide (divisor < 0) = false := by simpa using hd.le
    rw [if_pos nothing, sign, nothing, Int.cast_zero, zero_div, BinaryFormat.round_zero]
    rfl
  · simp only [if_neg nothing, ofRat_of_lt_ceiling h h']

/-- A quotient of integers up to a power of two below the ceiling of doubles is a finite double. -/
theorem ofQuotient_of_le_zpow {dividend divisor : Int} {k : Int} (hd : 0 < divisor)
    (h : Normal ((dividend : Rat) / divisor)) (hk : k < 1024)
    (h' : (dividend : Rat) / divisor ≤ 2 ^ k) :
    ofQuotient dividend divisor =
      .ok (.finite (BinaryFormat.binary64.round ((dividend : Rat) / divisor))) :=
  ofQuotient_of_lt_ceiling hd h (mul_growth_lt_ceiling hk h')

/-- A finite double has an integer part. -/
theorem exists_truncate_finite (x : Rat) : ∃ n, truncate (.finite x) = .ok n := by
  simp [truncate]

/-- A product of finite doubles that are not negative is rounded like a number. -/
theorem mul_finite_of_nonneg {x y : Rat} (hx : 0 ≤ x) (hy : 0 ≤ y) :
    (Double.finite x * Double.finite y) = ofRat (x * y) := by
  have sign : isNegative (.finite x) = false := by simpa [isNegative] using hx
  have sign' : isNegative (.finite y) = false := by simpa [isNegative] using hy
  change Double.mul (.finite x) (.finite y) = _
  simp only [Double.mul, toRat?, sign, sign']
  split
  · rename_i vanishes
    rw [vanishes, ofRat_zero]
    rfl
  · rfl

end Double

end Vivarium
