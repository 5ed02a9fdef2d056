import Vivarium.Evolution.Inheritance
import Vivarium.Proofs.Attempt
import Vivarium.Proofs.Number.RoundingError

/-!
# Splitting energy

A fork splits the energy of the parent with three truncations and five roundings to doubles. A tenth
of the energy is lost on the way, which is far more than the roundings can add, so parent and child
together never have more than the parent had before.
-/

namespace Vivarium

/-- Rounding is relative to a percentage of an amount that is not negative. -/
theorem normal_of_percentage {amount percentage : Int} (ha : 0 ≤ amount) (hp : 0 ≤ percentage) :
    Double.Normal ((amount * percentage : Int) / (100 : Int)) := by
  have product : 0 ≤ amount * percentage := Int.mul_nonneg ha hp
  rcases product.eq_or_lt with zero | positive
  · refine .inl ?_
    rw [← zero, Int.cast_zero, zero_div]
  · refine Double.normal_of_hundredth_le ?_
    have whole : (1 : Rat) ≤ (amount * percentage : Int) := by exact_mod_cast positive
    push_cast at whole ⊢
    linarith

/-- A share of an amount that is not negative is not negative either, and hardly more than its exact
value. -/
theorem bounds_of_share {amount percentage n : Int} (ha : 0 ≤ amount) (hp : 0 ≤ percentage)
    (h : share amount (.int percentage) = .ok n) :
    0 ≤ n ∧ (n : Rat) ≤ amount * percentage / 100 * Double.growth := by
  rw [share, Number.mul_int] at h
  obtain ⟨_, whole, h⟩ := bind_eq_ok_iff.mp h
  cases whole
  obtain ⟨quotient, hq, hn⟩ := bind_eq_ok_iff.mp h
  rw [Double.ofQuotient_eq_ok (by decide) hq] at hn
  have bounds := Double.bounds_of_truncate_ofRat (normal_of_percentage ha hp) hn
  push_cast at bounds
  exact bounds

/-- Energy that has a double is multiplied with the double that is nearest to nine tenths. -/
theorem mul_forkYield {energy : Int} (he : 0 ≤ energy) {x : Double}
    (hx : Double.ofInt energy = .ok x) :
    (Number.int energy).mul forkYield = .ok (.double (Double.ofRat
      (BinaryFormat.binary64.round energy * BinaryFormat.binary64.round (9 / 10)))) := by
  have tenths : Double.Normal (9 / 10) := Double.normal_of_hundredth_le (by norm_num)
  rw [← Double.mul_finite_of_nonneg
    (BinaryFormat.binary64.round_nonneg (Double.normal_intCast he).nonneg)
    (BinaryFormat.binary64.round_nonneg tenths.nonneg),
    ← Double.ofInt_eq_ok he hx, ← Double.ofRat_of_le_one tenths (by norm_num)]
  exact bind_eq_ok_iff.mpr ⟨x, hx, rfl⟩

/-- Rounding is relative to nine tenths of an energy that is not negative. -/
theorem normal_of_forkYield {energy : Int} (he : 0 ≤ energy) : Double.Normal
    (BinaryFormat.binary64.round energy * BinaryFormat.binary64.round (9 / 10)) := by
  have tenths : Double.Normal (9 / 10) := Double.normal_of_hundredth_le (by norm_num)
  rcases he.eq_or_lt with zero | positive
  · exact .inl (by rw [← zero, Int.cast_zero, BinaryFormat.round_zero, zero_mul])
  · have one : (1 : Rat) ≤ energy := by exact_mod_cast positive
    have rounded := BinaryFormat.binary64.round_nonneg (Double.normal_intCast he).nonneg
    refine Double.normal_of_hundredth_le ?_
    calc
      (1 / 100 : Rat) ≤ 1 / 2 * (9 / 10 / 2) := by norm_num
      _ ≤ BinaryFormat.binary64.round energy * BinaryFormat.binary64.round (9 / 10) := by
        gcongr
        · exact le_trans (by linarith) (Double.half_le_round (Double.normal_intCast he))
        · exact Double.half_le_round tenths

/-- Nine tenths of an energy that is not negative are rounded three times. -/
theorem forkYield_le {energy : Int} (he : 0 ≤ energy) :
    BinaryFormat.binary64.round energy * BinaryFormat.binary64.round (9 / 10) * Double.growth ≤
      energy * (9 / 10) * Double.growth ^ 3 := by
  have tenths : Double.Normal (9 / 10) := Double.normal_of_hundredth_le (by norm_num)
  have nonneg := (Double.normal_intCast he).nonneg
  have tenths_nonneg := BinaryFormat.binary64.round_nonneg tenths.nonneg
  have growth_pos : 0 < Double.growth := by
    rw [Double.growth]
    norm_num
  calc
    BinaryFormat.binary64.round energy * BinaryFormat.binary64.round (9 / 10) * Double.growth
      ≤ energy * Double.growth * (9 / 10 * Double.growth) * Double.growth := by
      gcongr
      · exact Double.round_le_mul_growth (Double.normal_intCast he)
      · exact Double.round_le_mul_growth tenths
    _ = energy * (9 / 10) * Double.growth ^ 3 := by ring

/-- What is left of the energy at a fork is not negative and hardly more than nine tenths. -/
theorem bounds_of_forkYield {energy left : Int} {product : Number} (he : 0 ≤ energy)
    (hp : (Number.int energy).mul forkYield = .ok product) (hl : product.truncate = .ok left) :
    0 ≤ left ∧ (left : Rat) ≤ energy * (9 / 10) * Double.growth ^ 3 := by
  obtain ⟨x, hx, -⟩ := bind_eq_ok_iff.mp hp
  rw [mul_forkYield he hx, Except.ok.injEq] at hp
  subst hp
  obtain ⟨nonneg, le⟩ := Double.bounds_of_truncate_ofRat (normal_of_forkYield he) hl
  exact ⟨nonneg, le.trans (forkYield_le he)⟩

/-- Parent and child together have no more energy than the parent had before, and neither has less
than none. -/
theorem splitEnergy_le {energy percentage kept given : Int} (he : 0 ≤ energy)
    (hp : 0 ≤ percentage ∧ percentage ≤ 100)
    (h : splitEnergy (.int energy) (.int percentage) forkYield = .ok (kept, given)) :
    0 ≤ kept ∧ 0 ≤ given ∧ kept + given ≤ energy := by
  obtain ⟨product, hm, h⟩ := bind_eq_ok_iff.mp h
  obtain ⟨left, hl, h⟩ := bind_eq_ok_iff.mp h
  obtain ⟨child, hc, h⟩ := bind_eq_ok_iff.mp h
  obtain ⟨rest, hr, h⟩ := bind_eq_ok_iff.mp h
  obtain ⟨parent, hk, h⟩ := bind_eq_ok_iff.mp h
  cases h
  rw [Number.sub_int, Except.ok.injEq] at hr
  subst hr
  obtain ⟨nonneg, bound⟩ := bounds_of_forkYield he hm hl
  obtain ⟨given_nonneg, given_le⟩ := bounds_of_share nonneg hp.1 hc
  obtain ⟨kept_nonneg, kept_le⟩ := bounds_of_share nonneg (by omega) hk
  refine ⟨kept_nonneg, given_nonneg, ?_⟩
  have total : ((kept + given : Int) : Rat) ≤ energy := by
    push_cast at kept_le ⊢
    have positive : (0 : Rat) ≤ energy := by exact_mod_cast he
    have yields : (9 / 10 : Rat) * Double.growth ^ 4 ≤ 1 := by
      rw [Double.growth]
      norm_num
    calc
      (kept + given : Rat) ≤ left * (100 - percentage) / 100 * Double.growth +
          left * percentage / 100 * Double.growth := add_le_add kept_le given_le
      _ = left * Double.growth := by ring
      _ ≤ energy * (9 / 10) * Double.growth ^ 3 * Double.growth := by
        gcongr
        rw [Double.growth]
        norm_num
      _ = energy * (9 / 10 * Double.growth ^ 4) := by ring
      _ ≤ energy * 1 := by gcongr
      _ = energy := mul_one _
  exact_mod_cast total

/-- A percentage of an amount that stays below the ceiling of doubles when it grows can be taken. -/
theorem exists_share {amount percentage : Int} (ha : 0 ≤ amount)
    (hp : 0 ≤ percentage ∧ percentage ≤ 100)
    (h : (amount : Rat) * Double.growth < 2 ^ (1024 : Int)) :
    ∃ n, share amount (.int percentage) = .ok n := by
  have normal := normal_of_percentage ha hp.1
  have small : ((amount * percentage : Int) : Rat) / (100 : Int) * Double.growth <
      2 ^ (1024 : Int) := by
    have nonneg : (0 : Rat) ≤ amount := by exact_mod_cast ha
    have part : (percentage : Rat) ≤ 100 := by exact_mod_cast hp.2
    refine lt_of_le_of_lt ?_ h
    rw [Double.growth]
    gcongr
    push_cast
    rw [div_le_iff₀ (by norm_num)]
    gcongr
  obtain ⟨n, whole⟩ := Double.exists_truncate_finite
    (BinaryFormat.binary64.round ((amount * percentage : Int) / (100 : Int)))
  refine ⟨n, ?_⟩
  rw [share, Number.mul_int]
  refine bind_eq_ok_iff.mpr ⟨_, rfl, ?_⟩
  exact bind_eq_ok_iff.mpr
    ⟨_, Double.ofQuotient_of_lt_ceiling (by decide) normal small, whole⟩

/-- Energy that has a double can be split. -/
theorem exists_splitEnergy_of_ofInt {energy percentage : Int} (he : 0 ≤ energy)
    (hp : 0 ≤ percentage ∧ percentage ≤ 100) {x : Double} (hx : Double.ofInt energy = .ok x) :
    ∃ shares, splitEnergy (.int energy) (.int percentage) forkYield = .ok shares := by
  have tenths : Double.Normal (9 / 10) := Double.normal_of_hundredth_le (by norm_num)
  have growth_nonneg : 0 ≤ Double.growth := by
    rw [Double.growth]
    norm_num
  -- A tenth of the energy is lost first, which leaves room for all the roundings that follow.
  have product : BinaryFormat.binary64.round energy * BinaryFormat.binary64.round (9 / 10) *
      Double.growth * Double.growth < 2 ^ (1024 : Int) := by
    have nonneg := BinaryFormat.binary64.round_nonneg tenths.nonneg
    calc
      BinaryFormat.binary64.round energy * BinaryFormat.binary64.round (9 / 10) *
          Double.growth * Double.growth
        ≤ 2 ^ (1024 : Int) * (9 / 10 * Double.growth) * Double.growth * Double.growth := by
        gcongr
        · exact (Double.round_lt_ceiling he hx).le
        · exact Double.round_le_mul_growth tenths
      _ = 2 ^ (1024 : Int) * (9 / 10 * Double.growth ^ 3) := by ring
      _ < 2 ^ (1024 : Int) * 1 := by
        gcongr
        rw [Double.growth]
        norm_num
      _ = 2 ^ (1024 : Int) := mul_one _
  have normal := normal_of_forkYield he
  have room : BinaryFormat.binary64.round energy * BinaryFormat.binary64.round (9 / 10) *
      Double.growth < 2 ^ (1024 : Int) := by
    refine lt_of_le_of_lt (le_mul_of_one_le_right ?_ ?_) product
    · exact mul_nonneg normal.nonneg growth_nonneg
    · rw [Double.growth]
      norm_num
  obtain ⟨left, hl⟩ := Double.exists_truncate_finite (BinaryFormat.binary64.round
    (BinaryFormat.binary64.round energy * BinaryFormat.binary64.round (9 / 10)))
  rw [← Double.ofRat_of_lt_ceiling normal room] at hl
  obtain ⟨left_nonneg, left_le⟩ := Double.bounds_of_truncate_ofRat normal hl
  have left_small : (left : Rat) * Double.growth < 2 ^ (1024 : Int) :=
    (mul_le_mul_of_nonneg_right left_le growth_nonneg).trans_lt product
  obtain ⟨given, hg⟩ := exists_share left_nonneg hp left_small
  have rest : 0 ≤ 100 - percentage ∧ 100 - percentage ≤ 100 := by omega
  obtain ⟨kept, hk⟩ := exists_share left_nonneg rest left_small
  refine ⟨(kept, given), ?_⟩
  refine bind_eq_ok_iff.mpr ⟨_, mul_forkYield he hx, ?_⟩
  refine bind_eq_ok_iff.mpr ⟨left, hl, ?_⟩
  refine bind_eq_ok_iff.mpr ⟨given, hg, ?_⟩
  exact bind_eq_ok_iff.mpr ⟨_, Number.sub_int 100 percentage, bind_eq_ok_iff.mpr ⟨kept, hk, rfl⟩⟩

/-- Energy that has no double cannot be split. -/
theorem splitEnergy_eq_error {energy : Int} {fault : Fault} (h : Double.ofInt energy = .error fault)
    (percentage : Number) : splitEnergy (.int energy) percentage forkYield = .error fault := by
  have product : (Number.int energy).mul forkYield = .error fault := by
    change Double.ofInt energy >>= _ = _
    rw [h]
    rfl
  rw [splitEnergy, product]
  rfl

/-- Energy below the ceiling of doubles can be split. -/
theorem exists_splitEnergy {energy percentage : Int} {k : Int} (he : 0 ≤ energy)
    (hp : 0 ≤ percentage ∧ percentage ≤ 100) (hk : k < 1024) (h : (energy : Rat) ≤ 2 ^ k) :
    ∃ shares, splitEnergy (.int energy) (.int percentage) forkYield = .ok shares :=
  exists_splitEnergy_of_ofInt he hp
    (Double.ofInt_of_le_zpow (Double.normal_intCast he) (by omega) h)

end Vivarium
