import Vivarium.Number.Double

/-!
# Numbers

A number is an integer of any size or a double. Integers combine exactly; as soon as one operand
is a double the other is rounded to one. Comparisons never round.
-/

namespace Vivarium

/-- An integer of any size or a double. -/
inductive Number where
  | int (value : Int)
  | double (value : Double)
  deriving DecidableEq

namespace Number

instance : Inhabited Number := ⟨.int 0⟩

/-- The number as a double. -/
def toDouble : Number → Except Fault Double
  | .int n => Double.ofInt n
  | .double x => .ok x

/-- Combine two numbers exactly when both are integers and as doubles otherwise. -/
def combine (exact : Int → Int → Int) (rounded : Double → Double → Double) :
    Number → Number → Except Fault Number
  | .int m, .int n => .ok (.int (exact m n))
  | x, y => do
    let a ← x.toDouble
    let b ← y.toDouble
    return .double (rounded a b)

/-- The sum. -/
def add : Number → Number → Except Fault Number := combine (· + ·) (· + ·)

/-- The difference. -/
def sub : Number → Number → Except Fault Number := combine (· - ·) (· - ·)

/-- The product. -/
def mul : Number → Number → Except Fault Number := combine (· * ·) (· * ·)

/-- Whether a number is zero. Negative zero is, the undefined number is not. -/
def isZero : Number → Bool
  | .int n => n = 0
  | .double x => x.equal (.finite 0)

/-- The number as a point of the extended line, an integer at its exact place there. -/
def position : Number → Double
  | .int n => .finite n
  | .double x => x

/-- The exact order of numbers. -/
def lt : Number → Number → Bool
  | .int m, .int n => m < n
  | x, y => x.position.lt y.position

/-- Whether two numbers are exactly equal. -/
def equal : Number → Number → Bool
  | .int m, .int n => m = n
  | x, y => x.position.equal y.position

/-- The integer part, dropping the fraction. -/
def truncate : Number → Except Fault Int
  | .int n => .ok n
  | .double x => x.truncate

/-- The magnitude. -/
def abs : Number → Number
  | .int n => .int n.natAbs
  | .double x => .double x.abs

/-- The quotient rounded down, for a divisor other than zero. -/
def floorDiv : Number → Number → Except Fault Number
  | .int m, .int n => if n = 0 then .error .floorDivisionByZero else .ok (.int (m.fdiv n))
  | x, y => do
    let a ← x.toDouble
    let b ← y.toDouble
    return .double (a.floorDiv b)

/-- The quotient in double precision: of two integers rounded once, from their exact values. -/
def divide : Number → Number → Except Fault Double
  | .int m, .int n => Double.ofQuotient m n
  | x, y => do
    let a ← x.toDouble
    let b ← y.toDouble
    if b.equal (.finite 0) then throw .divisionByZero
    return a / b

/-- The quotient rounded toward zero, which is zero for a zero divisor. The magnitudes are divided
and rounded down; the sign is minus when exactly one of the operands is negative. -/
def quotient (x y : Number) : Except Fault Int :=
  if y.isZero then .ok 0
  else do
    let whole ← (← x.abs.floorDiv y.abs).truncate
    return if x.lt (.int 0) = (Number.int 0).lt y then -whole else whole

/-- Integers are added exactly. -/
@[simp] theorem add_int (m n : Int) : (int m).add (.int n) = .ok (.int (m + n)) := rfl

/-- Integers are subtracted exactly. -/
@[simp] theorem sub_int (m n : Int) : (int m).sub (.int n) = .ok (.int (m - n)) := rfl

/-- Integers are multiplied exactly. -/
@[simp] theorem mul_int (m n : Int) : (int m).mul (.int n) = .ok (.int (m * n)) := rfl

/-- The order of integers is their own. -/
@[simp] theorem lt_int (m n : Int) : (int m).lt (.int n) = decide (m < n) := rfl

/-- The equality of integers is their own. -/
@[simp] theorem equal_int (m n : Int) : (int m).equal (.int n) = decide (m = n) := rfl

/-- An integer is its own integer part. -/
@[simp] theorem truncate_int (n : Int) : (int n).truncate = .ok n := rfl

end Number

end Vivarium
