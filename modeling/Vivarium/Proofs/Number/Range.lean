import Vivarium.Proofs.Number.Nearest

/-!
# The range of a format

The greatest number of a format is one unit below the power of two at its ceiling. Rounding takes
no notice of the ceiling and reaches it from midway between the two on: there both are equally near,
and the power of two is the even multiple of the unit. So an integer has a double exactly if its
magnitude is below that point.
-/

namespace Vivarium

variable {x : Rat} {k : Int}

/-- The nearest integer is inside an even bound exactly if the number is inside it by more than one
half. -/
theorem abs_nearestInteger_lt_iff {n : Int} (even : n % 2 = 0) :
    |nearestInteger x| < n ↔ |x| < n - 1 / 2 := by
  obtain ⟨below, above⟩ := nearestInteger_near x
  constructor
  · intro inside
    have bound : |nearestInteger x| ≤ n - 1 := Int.le_sub_one_of_lt inside
    obtain ⟨least, most⟩ := abs_le.mp bound
    have lower : -(n - 1 : Rat) ≤ nearestInteger x := by exact_mod_cast least
    have upper : (nearestInteger x : Rat) ≤ n - 1 := by exact_mod_cast most
    refine lt_of_le_of_ne (abs_le.mpr ⟨by linarith, by linarith⟩) fun midway => ?_
    -- Midway the nearest integer is even, but the only one left is next to the bound.
    rcases eq_or_eq_neg_of_abs_eq midway with right | left
    · have parity := nearestInteger_midway (n - 1)
      have value : x = ((n - 1 : Int) : Rat) + 1 / 2 := by push_cast; linarith
      rw [← value] at parity
      have last : n - 1 ≤ nearestInteger x := by
        have near : (n - 1 : Rat) ≤ nearestInteger x := by linarith
        exact_mod_cast near
      omega
    · have parity := nearestInteger_midway (-n)
      have value : x = ((-n : Int) : Rat) + 1 / 2 := by push_cast; linarith
      rw [← value] at parity
      have first : nearestInteger x ≤ -n + 1 := by
        have near : (nearestInteger x : Rat) ≤ -n + 1 := by linarith
        exact_mod_cast near
      omega
  · intro inside
    obtain ⟨least, most⟩ := abs_lt.mp inside
    rw [abs_lt]
    constructor
    · have lower : (-n : Rat) < nearestInteger x := by linarith
      exact_mod_cast lower
    · have upper : (nearestInteger x : Rat) < n := by linarith
      exact_mod_cast upper

/-- A number is not zero if its magnitude is not below a power of two. -/
theorem ne_zero_of_zpow_le_abs (h : (2 : Rat) ^ k ≤ |x|) : x ≠ 0 := by
  rw [← abs_pos]
  exact lt_of_lt_of_le (by positivity) h

/-- A number between a power of two and the next one has its binade. -/
theorem binade_eq (lower : (2 : Rat) ^ k ≤ |x|) (upper : |x| < 2 ^ (k + 1)) : binade x = k := by
  have nonzero := ne_zero_of_zpow_le_abs lower
  have below := (two_zpow_binade_le_abs nonzero).trans_lt upper
  have above := lower.trans_lt (abs_lt_two_zpow_binade_add_one nonzero)
  rw [zpow_lt_zpow_iff_right₀ (by norm_num)] at below above
  omega

namespace BinaryFormat

variable {format : BinaryFormat} {y : Rat}

/-- From what magnitude on a number is rounded out of the range of a format. -/
def limit (format : BinaryFormat) : Rat :=
  2 ^ format.ceiling - 2 ^ (format.ceiling - format.precision - 1)

/-- A format has its powers of two. -/
theorem has_zpow (positive : 0 < format.precision) (fine : format.finest ≤ k) :
    format.Has (2 ^ k) := by
  refine ⟨1, k, ?_, fine, by rw [Int.cast_one, one_mul]⟩
  rw [abs_one]
  exact one_lt_pow₀ (by norm_num) positive.ne'

/-- A format has the opposites of its numbers. -/
theorem Has.neg (h : format.Has y) : format.Has (-y) := by
  obtain ⟨c, e, small, fine, rfl⟩ := h
  refine ⟨-c, e, by rwa [abs_neg], fine, ?_⟩
  rw [Int.cast_neg, neg_mul]

/-- Rounding goes past no power of two outwards. -/
theorem abs_round_le_zpow (positive : 0 < format.precision) (fine : format.finest ≤ k)
    (h : |x| ≤ 2 ^ k) : |format.round x| ≤ 2 ^ k := by
  have nearest := isNearest_round positive x
  have power := has_zpow positive fine
  obtain ⟨lower, upper⟩ := abs_le.mp h
  exact abs_le.mpr ⟨nearest.ge_of_has power.neg (by exact_mod_cast lower),
    nearest.le_of_has power (by exact_mod_cast upper)⟩

/-- Rounding goes past no power of two inwards. -/
theorem zpow_le_abs_round (positive : 0 < format.precision) (fine : format.finest ≤ k)
    (h : 2 ^ k ≤ |x|) : 2 ^ k ≤ |format.round x| := by
  have nearest := isNearest_round positive x
  have power := has_zpow positive fine
  rcases le_abs.mp h with right | left
  · exact le_abs.mpr (.inl (nearest.ge_of_has power (by exact_mod_cast right)))
  · have beyond := nearest.le_of_has power.neg (by exact_mod_cast le_neg.mp left)
    exact le_abs.mpr (.inr (le_neg.mp beyond))

/-- In the last binade of a format a number is rounded to a multiple of the unit of its greatest
number, which reaches the ceiling from the limit on. -/
theorem zpow_ceiling_le_abs_round_iff (positive : 0 < format.precision)
    (wide : format.finest ≤ format.ceiling - format.precision) (nonzero : x ≠ 0)
    (last : binade x = format.ceiling - 1) :
    2 ^ format.ceiling ≤ |format.round x| ↔ format.limit ≤ |x| := by
  have exponent : format.unitExponent x = format.ceiling - format.precision := by
    rw [unitExponent, last]
    omega
  have unit_pos : (0 : Rat) < 2 ^ (format.ceiling - format.precision) := by positivity
  have ceiling : (2 : Rat) ^ format.ceiling =
      (2 ^ format.precision : Int) * 2 ^ (format.ceiling - format.precision) := by
    push_cast
    rw [← zpow_natCast, ← zpow_add₀ two_ne_zero]
    congr 1
    omega
  have half : (2 : Rat) ^ (format.ceiling - format.precision - 1) =
      1 / 2 * 2 ^ (format.ceiling - format.precision) := by
    rw [zpow_sub_one₀ two_ne_zero]
    ring
  have even : (2 ^ format.precision : Int) % 2 = 0 := by
    obtain ⟨n, hn⟩ := Nat.exists_eq_add_one.mpr positive
    rw [hn, pow_succ]
    omega
  rw [round, if_neg nonzero, limit, exponent, half, ceiling, abs_mul, abs_of_pos unit_pos,
    ← sub_mul, mul_le_mul_iff_left₀ unit_pos, ← le_div_iff₀ unit_pos]
  rw [← not_lt, ← not_lt, not_iff_not]
  have inside := abs_nearestInteger_lt_iff
    (x := x / 2 ^ (format.ceiling - format.precision)) even
  rw [abs_div, abs_of_pos unit_pos] at inside
  rw [← inside]
  exact_mod_cast Iff.rfl

/-- A number is rounded out of the range of a format exactly from its limit on. -/
theorem overflows_round_iff (positive : 0 < format.precision)
    (wide : format.finest ≤ format.ceiling - format.precision) :
    format.overflows (format.round x) ↔ format.limit ≤ |x| := by
  have room : (2 : Rat) ^ (format.ceiling - 1) ≤ format.limit ∧
      format.limit ≤ 2 ^ format.ceiling := by
    have double : (2 : Rat) ^ format.ceiling = 2 * 2 ^ (format.ceiling - 1) := by
      rw [← zpow_one_add₀ two_ne_zero]
      congr 1
      omega
    have less : (2 : Rat) ^ (format.ceiling - format.precision - 1) ≤ 2 ^ (format.ceiling - 1) :=
      zpow_le_zpow_right₀ (by norm_num) (by omega)
    have unit_pos : (0 : Rat) < 2 ^ (format.ceiling - format.precision - 1) := by positivity
    rw [limit]
    constructor <;> linarith
  rw [overflows, decide_eq_true_iff, rat_abs_eq]
  rcases lt_or_ge |x| (2 ^ (format.ceiling - 1)) with small | large
  · have within := abs_round_le_zpow positive (by omega) small.le
    have less : (2 : Rat) ^ (format.ceiling - 1) < 2 ^ format.ceiling :=
      zpow_lt_zpow_right₀ (by norm_num) (by omega)
    exact iff_of_false (not_le.mpr (within.trans_lt less)) (not_le.mpr (small.trans_le room.1))
  · rcases lt_or_ge |x| (2 ^ format.ceiling) with inside | outside
    · have last : binade x = format.ceiling - 1 := binade_eq large (by rwa [sub_add_cancel])
      exact zpow_ceiling_le_abs_round_iff positive wide (ne_zero_of_zpow_le_abs large) last
    · exact iff_of_true (zpow_le_abs_round positive (by omega) outside) (room.2.trans outside)

end BinaryFormat

namespace Double

variable {n : Int}

/-- The limit of doubles, with the magnitude of an integer. -/
theorem limit_le_abs_iff :
    BinaryFormat.binary64.limit ≤ |(n : Rat)| ↔ 2 ^ 1024 - 2 ^ 970 ≤ |n| := by
  have ceiling : BinaryFormat.binary64.ceiling = (1024 : Nat) := rfl
  have half : BinaryFormat.binary64.ceiling - BinaryFormat.binary64.precision - 1 = (970 : Nat) :=
    rfl
  have limit : BinaryFormat.binary64.limit = ((2 ^ 1024 - 2 ^ 970 : Int) : Rat) := by
    rw [BinaryFormat.limit, half, ceiling, zpow_natCast, zpow_natCast, Int.cast_sub, Int.cast_pow,
      Int.cast_pow, Int.cast_ofNat]
  rw [limit, ← Int.cast_abs, Int.cast_le]

/-- An integer has no double exactly from the limit of doubles on. -/
theorem ofInt_eq_error_iff :
    ofInt n = .error .integerTooLarge ↔ 2 ^ 1024 - 2 ^ 970 ≤ |n| := by
  have out : BinaryFormat.binary64.overflows (BinaryFormat.binary64.round n) ↔
      BinaryFormat.binary64.limit ≤ |(n : Rat)| :=
    BinaryFormat.overflows_round_iff (by decide) (by decide)
  rw [ofInt_eq, ← limit_le_abs_iff, ← out]
  split
  · exact iff_of_true rfl ‹_›
  · exact iff_of_false nofun ‹_›

/-- An integer has a double exactly if its magnitude is below the limit of doubles. -/
theorem exists_ofInt_iff : (∃ x, ofInt n = .ok x) ↔ |n| < 2 ^ 1024 - 2 ^ 970 := by
  rw [← not_le, ← ofInt_eq_error_iff, ofInt_eq]
  split
  · exact iff_of_false nofun (not_not.mpr rfl)
  · exact iff_of_true ⟨_, rfl⟩ nofun

end Double

end Vivarium
