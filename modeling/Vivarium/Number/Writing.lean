import Vivarium.Number.Basic

/-!
# Numbers as decimal text

A double is written with the fewest digits that read back as the same double, or with a fixed
number of decimal places of its exact value. Integers are written out with all of their digits:
how many there may be is limited for integers that are read, not for those that are written.
-/

namespace Vivarium

/-- The decimal digits of a natural number, most significant first. -/
def decimalDigits (n : Nat) : List Char :=
  (toString n).toList

/-- The exponent of the power of ten at or just below a positive number. -/
def decade (x : Rat) : Int :=
  let estimate : Int :=
    ((decimalDigits x.num.natAbs).length : Int) - ((decimalDigits x.den).length : Int)
  if (10 : Rat) ^ estimate ≤ x then estimate else estimate - 1

namespace Double

/-- The multiple of a power of ten nearest to `x` among its two neighbours on that grid, if any of
the two reads back as `x`. The result counts powers of ten. -/
def shortOn (x : Rat) (exponent : Int) : Option Nat :=
  let unit := (10 : Rat) ^ exponent
  let nearest := nearestInteger (x / unit)
  let other := if x < nearest * unit then nearest - 1 else nearest + 1
  if ofRat (nearest * unit) = .finite x then some nearest.toNat
  else if ofRat (other * unit) = .finite x then some other.toNat
  else none

/-- The shortest decimal that reads back as the positive double `x`: its digits as a number, and
the exponent of the unit they count. With up to `fuel` further digits tried, starting with a grid
of the given exponent. -/
def shortestFrom (x : Rat) : Nat → Int → Nat × Int
  | 0, exponent => (((x / (10 : Rat) ^ exponent).floor).toNat, exponent)
  | fuel + 1, exponent =>
    match shortOn x exponent with
    | some digits => (digits, exponent)
    | none => shortestFrom x fuel (exponent - 1)

/-- The shortest decimal that reads back as the positive double `x`. Seventeen digits are always
enough. -/
def shortest (x : Rat) : Nat × Int :=
  shortestFrom x 17 (decade x)

/-- Digits without the zeros at their end. -/
def stripZeros (digits : List Char) : List Char :=
  (digits.reverse.dropWhile (· = '0')).reverse

/-- A positive decimal in the notation of doubles: positional when the leading digit stands between
the fourth decimal place and the sixteenth digit before the point, always with a decimal place, and
scientific otherwise, with a signed exponent of at least two digits. -/
def notate (value : Nat) (unit : Int) : String :=
  let digits := decimalDigits value
  let leading := unit + digits.length - 1
  let digits := stripZeros digits
  if -4 ≤ leading ∧ leading < 16 then
    if leading < 0 then
      "0." ++ String.ofList (List.replicate (-leading - 1).toNat '0' ++ digits)
    else
      let before := leading.toNat + 1
      let padded := digits ++ List.replicate (before - digits.length) '0'
      let after := digits.drop before
      String.ofList (padded.take before) ++ "." ++
        (if after.isEmpty then "0" else String.ofList after)
  else
    let fraction := digits.drop 1
    let exponent := decimalDigits leading.natAbs
    String.ofList (digits.take 1) ++
      (if fraction.isEmpty then "" else "." ++ String.ofList fraction) ++ "e" ++
      (if leading < 0 then "-" else "+") ++
      String.ofList (List.replicate (2 - exponent.length) '0' ++ exponent)

/-- A double in the fewest digits that read back as the same double. -/
def text : Double → String
  | .nan => "nan"
  | .infinite negative => if negative then "-inf" else "inf"
  | .negZero => "-0.0"
  | .finite x =>
    if x = 0 then "0.0"
    else
      let (value, unit) := shortest x.abs
      (if x < 0 then "-" else "") ++ notate value unit

/-- A double with a fixed number of decimal places, its exact value rounded to the nearest, of two
equally near to the even last digit. -/
def fixedText (places : Nat) : Double → String
  | .nan => "nan"
  | .infinite negative => if negative then "-inf" else "inf"
  | x =>
    let scaled := nearestInteger ((x.toRat?.getD 0).abs * (10 : Rat) ^ places)
    let digits := decimalDigits scaled.toNat
    let digits := List.replicate (places + 1 - digits.length) '0' ++ digits
    let before := digits.length - places
    (if x.isNegative then "-" else "") ++ String.ofList (digits.take before) ++
      (if places = 0 then "" else "." ++ String.ofList (digits.drop before))

end Double

/-- A number in its shortest decimal text. -/
def Number.text : Number → String
  | .int n => toString n
  | .double x => x.text

end Vivarium
