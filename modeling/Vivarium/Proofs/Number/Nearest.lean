import Mathlib.Data.Real.Basic
import Vivarium.Proofs.Number.RoundingError

/-!
# Nearest numbers of a format

A binary format has the multiples of powers of two, from its finest unit on, that have no more bits
than it keeps. A multiple of the unit at the magnitude of a real number that is at most one half of
the unit away is as near as any number of the format: no two multiples are closer to each other than
the unit, and what is finer than the unit is below the magnitude. So rounding comes to a nearest
number, and it goes past no number of the format.
-/

namespace Vivarium.BinaryFormat

/-- Whether a format has a number, taken as if its exponents had no ceiling. -/
def Has (format : BinaryFormat) (y : Rat) : Prop :=
  ∃ c e : Int, |c| < 2 ^ format.precision ∧ format.finest ≤ e ∧ y = c * 2 ^ e

/-- Whether a number of a format is as near to a real number as any other one of the format. -/
structure IsNearest (format : BinaryFormat) (r : ℝ) (y : Rat) : Prop where
  has : format.Has y
  le : ∀ z, format.Has z → |r - y| ≤ |r - z|

variable {format : BinaryFormat} {r : ℝ} {y z : Rat}

/-- A nearest number is not below a number of the format that the real number is not below. -/
theorem IsNearest.ge_of_has (h : format.IsNearest r y) (hz : format.Has z) (below : z ≤ r) :
    z ≤ y := by
  by_contra short
  have less : (y : ℝ) < z := by exact_mod_cast not_le.mp short
  have near := h.le z hz
  rw [abs_of_nonneg (by linarith), abs_of_nonneg (by linarith)] at near
  linarith

/-- A nearest number is not above a number of the format that the real number is not above. -/
theorem IsNearest.le_of_has (h : format.IsNearest r y) (hz : format.Has z) (above : r ≤ z) :
    y ≤ z := by
  by_contra beyond
  have more : (z : ℝ) < y := by exact_mod_cast not_le.mp beyond
  have near := h.le z hz
  rw [abs_of_nonpos (by linarith), abs_of_nonpos (by linarith)] at near
  linarith

/-- A number of the format is the only one that is nearest to it. -/
theorem IsNearest.eq_of_has (h : format.IsNearest z y) (hz : format.Has z) : y = z :=
  le_antisymm (h.le_of_has hz le_rfl) (h.ge_of_has hz le_rfl)

/-- A multiple of a unit that is at most one half of the unit away is a nearest multiple. -/
theorem abs_sub_mul_le {unit : ℝ} (positive : 0 < unit) {m : Int}
    (near : |r - m * unit| ≤ unit / 2) (n : Int) : |r - m * unit| ≤ |r - n * unit| := by
  rcases eq_or_ne m n with rfl | apart
  · exact le_rfl
  · have whole : (1 : ℝ) ≤ |(m : ℝ) - n| := by
      exact_mod_cast Int.one_le_abs (sub_ne_zero.mpr apart)
    have gap : unit ≤ |m * unit - n * unit| := by
      rw [← sub_mul, abs_mul, abs_of_pos positive]
      exact le_mul_of_one_le_left positive.le whole
    have around := abs_sub_le (m * unit) r (n * unit)
    rw [abs_sub_comm (m * unit) r] at around
    linarith

/-- A multiple of a unit of the format with at most one bit more than it keeps. -/
theorem has_mul_zpow (positive : 0 < format.precision) {m e : Int}
    (fine : format.finest ≤ e) (small : |m| ≤ 2 ^ format.precision) : format.Has (m * 2 ^ e) := by
  rcases small.lt_or_eq with less | full
  · exact ⟨m, e, less, fine, rfl⟩
  · -- The one coefficient that is too large is twice one that is not.
    obtain ⟨n, hn⟩ := Nat.exists_eq_add_one.mpr positive
    have even : (2 : Int) ∣ m := by
      rw [← dvd_abs, full, hn]
      exact dvd_pow_self 2 (Nat.succ_ne_zero n)
    obtain ⟨half, rfl⟩ := even
    rw [abs_mul, abs_two] at full
    have less : |half| < 2 ^ format.precision := by
      have nonneg := abs_nonneg half
      have power : (0 : Int) < 2 ^ format.precision := by positivity
      omega
    refine ⟨half, e + 1, less, by omega, ?_⟩
    rw [zpow_add_one₀ two_ne_zero]
    push_cast
    ring

/-- A number that has a finer unit is below the least magnitude that goes with the unit. -/
theorem abs_le_of_finer {c q e : Int} (small : |c| < 2 ^ format.precision) (finer : q < e) :
    |(c : ℝ) * 2 ^ q| ≤ 2 ^ (e + (format.precision - 1)) := by
  have bits : |(c : ℝ)| ≤ 2 ^ format.precision := by exact_mod_cast small.le
  have power : (0 : ℝ) < 2 ^ q := by positivity
  calc
    |(c : ℝ) * 2 ^ q| = |(c : ℝ)| * 2 ^ q := by rw [abs_mul, abs_of_pos power]
    _ ≤ 2 ^ format.precision * 2 ^ (e - 1) := by
      gcongr
      · norm_num
      · omega
    _ = 2 ^ (e + (format.precision - 1)) := by
      rw [← zpow_natCast, ← zpow_add₀ two_ne_zero]
      congr 1
      omega

/-- The least magnitude that goes with a unit is a multiple of it, with the sign of the number. -/
theorem exists_multiple_at_edge (positive : 0 < format.precision) (e : Int)
    (lower : (2 : ℝ) ^ (e + (format.precision - 1)) ≤ |r|) :
    ∃ n : Int, |r - n * 2 ^ e| = |r| - 2 ^ (e + (format.precision - 1)) := by
  obtain ⟨n, hn⟩ := Nat.exists_eq_add_one.mpr positive
  have edge : (2 : ℝ) ^ (e + (format.precision - 1)) = 2 ^ n * 2 ^ e := by
    rw [← zpow_natCast, ← zpow_add₀ two_ne_zero, hn]
    congr 1
    omega
  rw [edge] at lower ⊢
  rcases le_total 0 r with nonneg | nonpos
  · refine ⟨2 ^ n, ?_⟩
    rw [abs_of_nonneg nonneg] at lower ⊢
    push_cast
    rw [abs_of_nonneg (by linarith)]
  · refine ⟨-2 ^ n, ?_⟩
    rw [abs_of_nonpos nonpos] at lower ⊢
    push_cast
    rw [abs_of_nonpos (by linarith)]
    ring

/-- A multiple of the unit at the magnitude of a real number, at most one half of the unit away, is a
nearest number of the format. -/
theorem isNearest_mul_zpow (positive : 0 < format.precision) {m e : Int}
    (fine : format.finest ≤ e)
    (lower : e = format.finest ∨ (2 : ℝ) ^ (e + (format.precision - 1)) ≤ |r|)
    (upper : |r| ≤ 2 ^ (e + format.precision)) (near : |r - m * 2 ^ e| ≤ 2 ^ e / 2) :
    format.IsNearest r (m * 2 ^ e) := by
  have unit_pos : (0 : ℝ) < 2 ^ e := by positivity
  constructor
  · apply has_mul_zpow positive fine
    have length := abs_sub_abs_le_abs_sub ((m : ℝ) * 2 ^ e) r
    rw [abs_sub_comm, abs_mul, abs_of_pos unit_pos] at length
    rw [add_comm, zpow_add₀ two_ne_zero, zpow_natCast] at upper
    have half : |(m : ℝ)| < 2 ^ format.precision + 1 :=
      lt_of_mul_lt_mul_right (by linarith) unit_pos.le
    exact Int.lt_add_one_iff.mp (by exact_mod_cast half)
  · have nearest := abs_sub_mul_le unit_pos near
    rintro _ ⟨c, q, hc, hq, rfl⟩
    push_cast
    rcases le_or_gt e q with coarser | finer
    · obtain ⟨n, rfl⟩ := Int.le.dest coarser
      have multiple : (c : ℝ) * 2 ^ (e + n) = ((c * 2 ^ n : Int) : ℝ) * 2 ^ e := by
        rw [zpow_add₀ two_ne_zero, zpow_natCast]
        push_cast
        ring
      rw [multiple]
      exact nearest _
    · -- There is a multiple between the finer number and the real one.
      have magnitude := lower.resolve_left (by omega)
      obtain ⟨n, edge⟩ := exists_multiple_at_edge positive e magnitude
      have below := abs_le_of_finer hc finer
      calc
        |r - m * 2 ^ e| ≤ |r - n * 2 ^ e| := nearest n
        _ = |r| - 2 ^ (e + (format.precision - 1)) := edge
        _ ≤ |r| - |(c : ℝ) * 2 ^ q| := by linarith
        _ ≤ |r - c * 2 ^ q| := abs_sub_abs_le_abs_sub _ _

/-- Rounding comes to a nearest number of the format. -/
theorem isNearest_round (positive : 0 < format.precision) (x : Rat) :
    format.IsNearest x (format.round x) := by
  by_cases zero : x = 0
  · rw [zero, round_zero]
    refine ⟨⟨0, format.finest, ?_, le_rfl, by simp⟩, fun z _ => by simp⟩
    rw [abs_zero]
    positivity
  · obtain ⟨below, above⟩ := format.round_near zero
    have least := (Rat.cast_le (K := ℝ)).mpr (two_zpow_binade_le_abs zero)
    have most := (Rat.cast_lt (K := ℝ)).mpr (abs_lt_two_zpow_binade_add_one zero)
    push_cast at least most
    rw [round, if_neg zero] at below above ⊢
    refine isNearest_mul_zpow positive (le_max_right _ _) ?_ (most.le.trans ?_) ?_
    · rcases le_total (binade x - (format.precision - 1)) format.finest with fine | coarse
      · exact .inl (max_eq_right fine)
      · right
        rw [unitExponent, max_eq_left coarse, sub_add_cancel]
        exact least
    · have unit : binade x - (format.precision - 1) ≤ format.unitExponent x := le_max_left _ _
      exact zpow_le_zpow_right₀ (by norm_num) (by omega)
    · dsimp only at below above
      generalize nearestInteger (x / 2 ^ format.unitExponent x) = m at *
      have lower := (Rat.cast_le (K := ℝ)).mpr below
      have upper := (Rat.cast_le (K := ℝ)).mpr above
      push_cast at lower upper
      rw [abs_le]
      constructor <;> linarith

/-- The integers of fewer than fifty-four bits are doubles. -/
theorem has_intCast {n : Int} (h : |n| < 2 ^ 53) : binary64.Has n :=
  ⟨n, 0, h, by decide, by rw [zpow_zero, mul_one]⟩

end Vivarium.BinaryFormat
