/-!
# Words

Positions, extents and places on a surface are handed on as machine words of 64 bits, signed. What
needs a word refuses any other number; places on a surface keep the lower half of theirs. What has
as many bytes as a limit or more does not fit into memory, and what has fewer is taken to fit.
-/

namespace Vivarium

/-- Whether a number is a word. -/
def fitsWord (n : Int) : Bool :=
  -9223372036854775808 ≤ n && n ≤ 9223372036854775807

/-- The bytes that nothing can have for lack of memory. -/
def memoryLimit : Int := 8589934592

/-- The signed number in the lower half of a word. -/
def lowerHalf (n : Int) : Int :=
  n.bmod 4294967296

/-- Whether a number is a word is a matter of its bounds. -/
theorem fitsWord_iff {n : Int} :
    fitsWord n ↔ -9223372036854775808 ≤ n ∧ n ≤ 9223372036854775807 := by
  simp only [fitsWord, Bool.and_eq_true, decide_eq_true_eq]

/-- A number of 32 bits is its own lower half. -/
theorem lowerHalf_of_lt {n : Int} (h : -2147483648 ≤ n) (h' : n < 2147483648) :
    lowerHalf n = n := by
  simp only [lowerHalf, Int.bmod_def]
  omega

end Vivarium
