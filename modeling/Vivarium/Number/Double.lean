import Vivarium.Fault
import Vivarium.Number.Rounding

/-!
# Doubles

A finite double is kept as the rational number that it stands for, so every operation is the exact
operation followed by one rounding. Negative zero, the two infinities and the undefined number
stand beside the finite ones.
-/

namespace Vivarium

/-- A number in double precision. Zero is `finite 0` when positive and `negZero` when negative. -/
inductive Double where
  | finite (value : Rat)
  | negZero
  | infinite (negative : Bool)
  | nan
  deriving DecidableEq

namespace Double

instance : Inhabited Double := ⟨.finite 0⟩

/-- The zero of the given sign. -/
def zero (negative : Bool) : Double :=
  if negative then .negZero else .finite 0

/-- The double nearest to an exact number. An excess magnitude goes to infinity, and a number too
small for the finest unit keeps its sign on the zero it becomes. -/
def ofRat (x : Rat) : Double :=
  let rounded := BinaryFormat.binary64.round x
  if BinaryFormat.binary64.overflows rounded then .infinite (x < 0)
  else if rounded = 0 then zero (x < 0)
  else .finite rounded

/-- The double nearest to an integer, unless it is out of range. -/
def ofInt (n : Int) : Except Fault Double :=
  match ofRat n with
  | .infinite _ => .error .integerTooLarge
  | x => .ok x

/-- The exact value of a finite double. -/
def toRat? : Double → Option Rat
  | .finite x => some x
  | .negZero => some 0
  | _ => none

/-- Whether the sign of a double is minus. The undefined number has none. -/
def isNegative : Double → Bool
  | .finite x => x < 0
  | .negZero => true
  | .infinite negative => negative
  | .nan => false

/-- The double of opposite sign. -/
def neg : Double → Double
  | .finite x => if x = 0 then .negZero else .finite (-x)
  | .negZero => .finite 0
  | .infinite negative => .infinite (!negative)
  | .nan => .nan

/-- The magnitude of a double. -/
def abs (x : Double) : Double :=
  if x.isNegative then x.neg else x

/-- The rounded sum. -/
def add : Double → Double → Double
  | .nan, _ => .nan
  | _, .nan => .nan
  | .infinite s, .infinite t => if s = t then .infinite s else .nan
  | .infinite s, _ => .infinite s
  | _, .infinite t => .infinite t
  | .negZero, y => y
  | x, .negZero => x
  | .finite x, .finite y => ofRat (x + y)

/-- The rounded difference. -/
def sub (x y : Double) : Double :=
  x.add y.neg

/-- The rounded product. -/
def mul (x y : Double) : Double :=
  let negative := x.isNegative != y.isNegative
  match x.toRat?, y.toRat? with
  | some a, some b => if a * b = 0 then zero negative else ofRat (a * b)
  | some a, none => if y = .nan ∨ a = 0 then .nan else .infinite negative
  | none, some b => if x = .nan ∨ b = 0 then .nan else .infinite negative
  | none, none => if x = .nan ∨ y = .nan then .nan else .infinite negative

/-- The rounded quotient. A zero divisor gives an infinity, or the undefined number for `0 / 0`. -/
def div (x y : Double) : Double :=
  let negative := x.isNegative != y.isNegative
  match x.toRat?, y.toRat? with
  | some a, some b =>
    if b = 0 then if a = 0 then .nan else .infinite negative
    else if a = 0 then zero negative
    else ofRat (a / b)
  | some _, none => if y = .nan then .nan else zero negative
  | none, some _ => if x = .nan then .nan else .infinite negative
  | none, none => .nan

instance : Neg Double := ⟨neg⟩
instance : Add Double := ⟨add⟩
instance : Sub Double := ⟨sub⟩
instance : Mul Double := ⟨mul⟩
instance : Div Double := ⟨div⟩

/-- The remainder of a division that truncates toward zero. It is exact and has the sign of the
dividend. -/
def remainder (x y : Double) : Double :=
  match x.toRat?, y.toRat? with
  | some a, some b =>
    if b = 0 then .nan
    else
      let quotient := a / b
      let whole := if quotient < 0 then quotient.ceil else quotient.floor
      let rest := a - b * whole
      if rest = 0 then zero x.isNegative else .finite rest
  | some _, none => if y = .nan then .nan else x
  | none, _ => .nan

/-- The greatest integer that is no greater, as a double. -/
def floor : Double → Double
  | .finite x => .finite x.floor
  | x => x

/-- The order of doubles. Zeros are equal, and the undefined number is not comparable. -/
def lt : Double → Double → Bool
  | .nan, _ => false
  | _, .nan => false
  | .infinite s, .infinite t => s && !t
  | .infinite s, _ => s
  | _, .infinite t => !t
  | x, y => (x.toRat?.getD 0) < (y.toRat?.getD 0)

/-- Whether two doubles stand for the same number. Zeros are equal, and the undefined number
differs from itself. -/
def equal : Double → Double → Bool
  | .nan, _ => false
  | _, .nan => false
  | .infinite s, .infinite t => s == t
  | .infinite _, _ => false
  | _, .infinite _ => false
  | x, y => (x.toRat?.getD 0) = (y.toRat?.getD 0)

/-- The quotient rounded down, reached through the remainder: the dividend less the remainder is
divided, moved down by one if remainder and divisor differ in sign, and brought to an integer. -/
def floorDiv (x y : Double) : Double :=
  let rest := x.remainder y
  let quotient := (x - rest) / y
  let restIsZero := rest.equal (.finite 0)
  let quotient :=
    if !restIsZero && (y.isNegative != rest.isNegative) then quotient - .finite 1 else quotient
  if quotient.equal (.finite 0) then zero (x / y).isNegative
  else
    let whole := quotient.floor
    if (Double.finite (1 / 2)).lt (quotient - whole) then whole + .finite 1 else whole

/-- The integer part of a double, dropping the fraction. -/
def truncate : Double → Except Fault Int
  | .finite x => .ok (if x < 0 then x.ceil else x.floor)
  | .negZero => .ok 0
  | .infinite _ => .error .infinityToInteger
  | .nan => .error .nanToInteger

/-- The correctly rounded quotient of two integers. -/
def ofQuotient (dividend divisor : Int) : Except Fault Double :=
  if divisor = 0 then .error .divisionByZero
  else if dividend = 0 then .ok (zero (divisor < 0))
  else
    match ofRat ((dividend : Rat) / divisor) with
    | .infinite _ => .error .quotientTooLarge
    | x => .ok x

/-- An integral double is its own integer part. -/
@[simp] theorem truncate_finite_intCast (n : Int) : truncate (.finite n) = .ok n := by
  have h : (n : Rat).ceil = n := by
    rw [Rat.ceil_eq_neg_floor_neg, ← Rat.intCast_neg, Rat.floor_intCast, Int.neg_neg]
  simp [truncate, h, Rat.floor_intCast]

/-- A zero divisor is always a fault. -/
theorem ofQuotient_zero (dividend : Int) : ofQuotient dividend 0 = .error .divisionByZero := rfl

end Double

end Vivarium
