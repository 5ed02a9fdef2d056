import Vivarium.Proofs.Number.Nearest

/-!
# Integer parts of doubles

Below two to the power of forty-six the doubles are at most one part in one hundred and twenty-eight
apart, and every integer is a double. So a number that is rounded to a double keeps its integer part
unless it comes closer than that to the next integer.
-/

namespace Vivarium

/-- The binade of a number below a power of two is below its exponent. -/
theorem binade_lt {x : Rat} {k : Int} (h : 0 < x) (h' : x < 2 ^ k) : binade x < k := by
  have below : (2 : Rat) ^ binade x < 2 ^ k := (two_zpow_binade_le h).trans_lt h'
  exact (zpow_lt_zpow_iff_right₀ (by norm_num)).mp below

namespace BinaryFormat

/-- The unit of a number is one or less below two to the power of fifty-three. -/
theorem unitExponent_le {x : Rat} {k : Int} (h : 0 < x) (hk : -1021 ≤ k) (h' : x < 2 ^ k) :
    binary64.unitExponent x ≤ k - 53 := by
  have binade := binade_lt h h'
  simp only [unitExponent, binary64]
  omega

/-- Rounding keeps a number above every integer that it is not below. -/
theorem le_round {n : Int} {x : Rat} (hn : (n : Rat) ≤ x) (h : 0 ≤ x) (h' : x < 2 ^ (53 : Int)) :
    (n : Rat) ≤ binary64.round x := by
  rcases le_total n 0 with nonpos | nonneg
  · exact le_trans (by exact_mod_cast nonpos) (binary64.round_nonneg h)
  · have below : n < 2 ^ 53 := by exact_mod_cast hn.trans_lt h'
    have whole := has_intCast (abs_lt.mpr ⟨by omega, below⟩)
    exact (isNearest_round (by decide) x).ge_of_has whole (by exact_mod_cast hn)

/-- Integers below two to the power of fifty-three are doubles. -/
theorem round_intCast {n : Int} (h : 0 ≤ n) (h' : n < 2 ^ 53) : binary64.round n = n :=
  (isNearest_round (by decide) n).eq_of_has (has_intCast (abs_lt.mpr ⟨by omega, h'⟩))

end BinaryFormat

namespace Double

/-- A number that stays one part in one hundred and twenty-eight below the next integer keeps its
integer part when it is rounded. -/
theorem truncate_ofRat {n : Int} {x : Rat} (h : Normal x) (h' : x < 2 ^ (46 : Int))
    (lower : (n : Rat) ≤ x) (upper : x ≤ n + 1 - 1 / 128) : (ofRat x).truncate = .ok n := by
  have nonneg := h.nonneg
  rw [ofRat_of_le_zpow h (by norm_num) h'.le, truncate,
    if_neg (not_lt.mpr (BinaryFormat.binary64.round_nonneg nonneg)), Except.ok.injEq]
  have wide : x < 2 ^ (53 : Int) := h'.trans (by norm_num)
  have above := BinaryFormat.le_round lower nonneg wide
  have below : BinaryFormat.binary64.round x < n + 1 := by
    rcases nonneg.eq_or_lt with zero | positive
    · rw [← zero, BinaryFormat.round_zero]
      linarith
    · -- A unit is one part in one hundred and twenty-eight at most, and rounding moves by half.
      have near := (BinaryFormat.binary64.round_near positive.ne').2
      have unit : (2 : Rat) ^ BinaryFormat.binary64.unitExponent x ≤ 1 / 128 := calc
        (2 : Rat) ^ BinaryFormat.binary64.unitExponent x ≤ 2 ^ (46 - 53 : Int) :=
          zpow_le_zpow_right₀ (by norm_num)
            (BinaryFormat.unitExponent_le positive (by norm_num) h')
        _ = 1 / 128 := by norm_num
      linarith
  apply le_antisymm
  · rw [← Int.lt_add_one_iff]
    exact_mod_cast (Rat.floor_le _).trans_lt below
  · exact Rat.le_floor_iff.mpr above

end Double

end Vivarium
