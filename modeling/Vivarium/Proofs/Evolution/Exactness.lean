import Vivarium.Proofs.Evolution.Split
import Vivarium.Proofs.Number.IntegerPart

/-!
# Exactness of the split

Nine tenths have no double, and the double that stands for them is a little too large. For energies
below two to the power of forty-six the excess stays so far below one tenth that it never reaches
the next integer, and neither do the hundredths of the two shares. So parent and child get what
exact arithmetic gives them.
-/

namespace Vivarium

/-- The double of nine tenths is above them by one fifth of its unit. -/
theorem round_nine_tenths :
    BinaryFormat.binary64.round (9 / 10) = 9 / 10 + 1 / (5 * 2 ^ 53) := by
  decide +kernel

/-- An energy below two to the power of forty-six is less than one over six hundred and forty above
nine tenths when it is multiplied with their double. -/
theorem mul_round_nine_tenths_le {energy : Int} (h : energy < 2 ^ 46) :
    (energy : Rat) * BinaryFormat.binary64.round (9 / 10) ≤ 9 * energy / 10 + 1 / 640 := by
  have small : (energy : Rat) ≤ 2 ^ 46 := by exact_mod_cast h.le
  calc
    (energy : Rat) * BinaryFormat.binary64.round (9 / 10)
      = 9 * energy / 10 + energy * (1 / (5 * 2 ^ 53)) := by rw [round_nine_tenths]; ring
    _ ≤ 9 * energy / 10 + 2 ^ 46 * (1 / (5 * 2 ^ 53)) := by gcongr
    _ = 9 * energy / 10 + 1 / 640 := by norm_num

/-- The integer quotient of two integers is not above their quotient, which stays below the next
integer by one over the divisor. -/
theorem bounds_of_ediv (n : Int) {d : Int} (h : 0 < d) :
    ((n / d : Int) : Rat) ≤ n / d ∧ (n : Rat) / d ≤ (n / d : Int) + 1 - 1 / d := by
  have positive : (0 : Rat) < d := by exact_mod_cast h
  have parts : (n : Rat) = d * (n / d : Int) + (n % d : Int) := by
    exact_mod_cast (Int.mul_ediv_add_emod n d).symm
  have nonneg : (0 : Rat) ≤ (n % d : Int) := by exact_mod_cast Int.emod_nonneg n h.ne'
  have below : ((n % d : Int) : Rat) + 1 ≤ d := by exact_mod_cast Int.emod_lt_of_pos n h
  constructor
  · rw [le_div_iff₀ positive]
    linarith
  · rw [div_le_iff₀ positive, sub_mul, add_mul, one_div_mul_cancel positive.ne']
    linarith

/-- What is left of a small energy at a fork are nine tenths of it, rounded down. -/
theorem exists_forkYield {energy : Int} (he : 0 ≤ energy) (h : energy < 2 ^ 46) :
    ∃ product, (Number.int energy).mul forkYield = .ok product ∧
      product.truncate = .ok (9 * energy / 10) := by
  have nonneg : (0 : Rat) ≤ energy := by exact_mod_cast he
  have small : (energy : Rat) < 2 ^ 46 := by exact_mod_cast h
  have finite := Double.ofInt_of_le_zpow (k := 46) (Double.normal_intCast he) (by norm_num)
    (by exact_mod_cast h.le)
  refine ⟨_, mul_forkYield he finite, ?_⟩
  have normal := normal_of_forkYield he
  rw [BinaryFormat.round_intCast he (by omega)] at normal ⊢
  obtain ⟨lower, upper⟩ := bounds_of_ediv (9 * energy) (d := 10) (by decide)
  push_cast at lower upper
  -- The double of nine tenths exceeds them, so the product can only miss the integer part by
  -- reaching the next integer, and its excess is too small for that.
  have above : 9 * (energy : Rat) / 10 ≤ energy * BinaryFormat.binary64.round (9 / 10) := by
    rw [round_nine_tenths]
    linarith
  have below := mul_round_nine_tenths_le h
  refine Double.truncate_ofRat normal ?_ (lower.trans above) ?_
  · refine below.trans_lt ?_
    norm_num at small ⊢
    linarith
  · linarith

/-- A share of a small amount is the percentage of it, rounded down. -/
theorem share_eq {amount percentage : Int} (ha : 0 ≤ amount) (h : amount < 2 ^ 46)
    (hp : 0 ≤ percentage ∧ percentage ≤ 100) :
    share amount (.int percentage) = .ok (amount * percentage / 100) := by
  have normal := normal_of_percentage ha hp.1
  have nonneg : (0 : Rat) ≤ amount := by exact_mod_cast ha
  have part : (percentage : Rat) ≤ 100 := by exact_mod_cast hp.2
  have small : ((amount * percentage : Int) : Rat) / (100 : Int) < 2 ^ (46 : Int) := by
    refine lt_of_le_of_lt ?_ (show (amount : Rat) < 2 ^ (46 : Int) by exact_mod_cast h)
    push_cast
    rw [div_le_iff₀ (by norm_num)]
    gcongr
  obtain ⟨lower, upper⟩ := bounds_of_ediv (amount * percentage) (d := 100) (by decide)
  have whole : (Double.ofRat ((amount * percentage : Int) / (100 : Int))).truncate =
      .ok (amount * percentage / 100) := by
    refine Double.truncate_ofRat normal small lower (upper.trans ?_)
    push_cast
    linarith
  rw [Double.ofRat_of_le_zpow normal (by norm_num) small.le] at whole
  rw [share, Number.mul_int]
  refine bind_eq_ok_iff.mpr ⟨_, rfl, ?_⟩
  exact bind_eq_ok_iff.mpr
    ⟨_, Double.ofQuotient_of_le_zpow (by decide) normal (by norm_num) small.le, whole⟩

/-- Parent and child get what exact arithmetic gives them. -/
theorem splitEnergy_eq {energy percentage : Int} (he : 0 ≤ energy) (h : energy < 2 ^ 46)
    (hp : 0 ≤ percentage ∧ percentage ≤ 100) :
    splitEnergy (.int energy) (.int percentage) forkYield =
      .ok (9 * energy / 10 * (100 - percentage) / 100, 9 * energy / 10 * percentage / 100) := by
  obtain ⟨product, taken, left⟩ := exists_forkYield he h
  have nonneg : 0 ≤ 9 * energy / 10 := by omega
  have small : 9 * energy / 10 < 2 ^ 46 := by omega
  have given := share_eq nonneg small hp
  have rest : 0 ≤ 100 - percentage ∧ 100 - percentage ≤ 100 := by omega
  have kept := share_eq nonneg small rest
  refine bind_eq_ok_iff.mpr ⟨product, taken, ?_⟩
  refine bind_eq_ok_iff.mpr ⟨_, left, ?_⟩
  refine bind_eq_ok_iff.mpr ⟨_, given, ?_⟩
  exact bind_eq_ok_iff.mpr ⟨_, Number.sub_int 100 percentage, bind_eq_ok_iff.mpr ⟨_, kept, rfl⟩⟩

/-- Two shares that make up a whole lose at most one to their fractions. -/
theorem shares_add (amount percentage : Int) :
    amount - 1 ≤ amount * (100 - percentage) / 100 + amount * percentage / 100 ∧
      amount * (100 - percentage) / 100 + amount * percentage / 100 ≤ amount := by
  rw [Int.mul_sub]
  generalize amount * percentage = product
  omega

/-- For every energy below two to the power of forty-six and every percentage from three to
ninety-seven, parent and child get the shares of nine tenths of the energy that exact arithmetic
gives, all fractions dropped. Nothing but a single unit and the lost tenth goes missing, no part is
negative, and the opposite percentage swaps the parts. -/
theorem split_exact {energy percentage : Int} (he : 0 ≤ energy) (h : energy < 2 ^ 46)
    (hp : 3 ≤ percentage) (hp' : percentage ≤ 97) :
    ∃ parent child, splitEnergy (.int energy) (.int percentage) forkYield = .ok (parent, child) ∧
      splitEnergy (.int energy) (.int (100 - percentage)) forkYield = .ok (child, parent) ∧
      parent = 9 * energy / 10 * (100 - percentage) / 100 ∧
      child = 9 * energy / 10 * percentage / 100 ∧
      9 * energy / 10 - 1 ≤ parent + child ∧ parent + child ≤ 9 * energy / 10 ∧
      9 * energy / 10 ≤ energy ∧ 0 ≤ parent ∧ 0 ≤ child := by
  have range : 0 ≤ percentage ∧ percentage ≤ 100 := by omega
  have rest : 0 ≤ 100 - percentage ∧ 100 - percentage ≤ 100 := by omega
  have split := splitEnergy_eq he h range
  have swapped := splitEnergy_eq he h rest
  rw [sub_sub_cancel] at swapped
  have nonneg : 0 ≤ 9 * energy / 10 := Int.ediv_nonneg (by omega) (by decide)
  have most : 9 * energy / 10 ≤ energy := by omega
  have parent_nonneg := Int.ediv_nonneg (Int.mul_nonneg nonneg rest.1) (by decide : (0 : Int) ≤ 100)
  have child_nonneg := Int.ediv_nonneg (Int.mul_nonneg nonneg range.1) (by decide : (0 : Int) ≤ 100)
  obtain ⟨least, greatest⟩ := shares_add (9 * energy / 10) percentage
  exact ⟨_, _, split, swapped, rfl, rfl, least, greatest, most, parent_nonneg, child_nonneg⟩

/-- The largest of these energies, split in the ratio of ninety-seven to three. -/
theorem split_exact_largest :
    splitEnergy (.int (2 ^ 46 - 1)) (.int 3) forkYield = .ok (61431913667099, 1899956092796) ∧
      splitEnergy (.int (2 ^ 46 - 1)) (.int 97) forkYield = .ok (1899956092796, 61431913667099) := by
  have nonneg : (0 : Int) ≤ 2 ^ 46 - 1 := by decide
  have small : (2 ^ 46 - 1 : Int) < 2 ^ 46 := by decide
  have least : (3 : Int) ≤ 3 := by decide
  have most : (3 : Int) ≤ 97 := by decide
  obtain ⟨parent, child, split, swapped, rfl, rfl, -⟩ := split_exact nonneg small least most
  exact ⟨split, swapped⟩

end Vivarium
