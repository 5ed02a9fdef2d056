import Vivarium.Number.Double
import Vivarium.Text.Blank
import Vivarium.Text.Digit

/-!
# Numbers from decimal text

Integers and doubles are read from text that may be surrounded by blanks. Digits may belong to any
script, and a single underscore may stand between two of them.
-/

namespace Vivarium

/-- Read as many digits as stand at the front of a text, and the text that remains. An underscore
is passed over if it follows a digit and precedes one. -/
def readDigitsAfter (digitBefore : Bool) : List Char → List Nat × List Char
  | [] => ([], [])
  | c :: rest =>
    match Text.digitValue? c with
    | some value =>
      let (values, remaining) := readDigitsAfter true rest
      (value :: values, remaining)
    | none =>
      if digitBefore ∧ c = '_' then
        match readDigitsAfter false rest with
        | ([], _) => ([], c :: rest)
        | found => found
      else ([], c :: rest)

/-- Read the digits at the front of a text: their values, and the text that remains. -/
def readDigits (s : List Char) : List Nat × List Char :=
  readDigitsAfter false s

/-- The number that decimal digits stand for. -/
def digitsValue (digits : List Nat) : Nat :=
  digits.foldl (fun value digit => 10 * value + digit) 0

/-- Take a sign from the front of a text; whether it is a minus, and the remaining text. -/
def readSign : List Char → Bool × List Char
  | '-' :: rest => (true, rest)
  | '+' :: rest => (false, rest)
  | s => (false, s)

/-- The greatest number of digits that an integer may be written with. -/
def integerDigitLimit : Nat := 4300

/-- Read an integer: blanks, a sign, digits, blanks, and nothing else. -/
def readInteger? (s : String) : Option Int :=
  let (negative, unsigned) := readSign (Text.trimBlanks s.toList)
  match readDigits unsigned with
  | ([], _) => none
  | (digits, []) =>
    if integerDigitLimit < digits.length then none
    else
      let value : Int := digitsValue digits
      some (if negative then -value else value)
  | _ => none

namespace Double

/-- The double nearest to `value * 10 ^ exponent`. Magnitudes far outside the range are settled by
counting digits, before the power is formed. -/
def ofDecimal (negative : Bool) (value : Nat) (exponent : Int) : Double :=
  let magnitude := exponent + (toString value).length
  let unsigned :=
    if value = 0 ∨ magnitude < -400 then Double.finite 0
    else if 400 < magnitude then Double.infinite false
    else ofRat (value * (10 : Rat) ^ exponent)
  if negative then unsigned.neg else unsigned

/-- Read the exponent that may end a decimal, `0` if there is none. -/
def readExponent? : List Char → Option Int
  | [] => some 0
  | c :: rest =>
    if c = 'e' ∨ c = 'E' then
      let (negative, unsigned) := readSign rest
      match readDigits unsigned with
      | ([], _) => none
      | (digits, []) =>
        let value : Int := digitsValue digits
        some (if negative then -value else value)
      | _ => none
    else none

/-- Read an unsigned decimal with an optional point and exponent. -/
def readDecimal? (negative : Bool) (s : List Char) : Option Double :=
  let (whole, rest) := readDigits s
  let (places, rest) :=
    match rest with
    | '.' :: rest' => readDigits rest'
    | _ => ([], rest)
  if whole.isEmpty && places.isEmpty then none
  else
    (readExponent? rest).map fun exponent =>
      ofDecimal negative (digitsValue (whole ++ places)) (exponent - places.length)

/-- Read a double: a decimal, an infinity or the undefined number, in either case of letters. -/
def read? (s : String) : Option Double :=
  let (negative, unsigned) := readSign (Text.trimBlanks s.toList)
  let name := String.ofList (unsigned.map Char.toLower)
  if name = "inf" ∨ name = "infinity" then some (.infinite negative)
  else if name = "nan" then some .nan
  else readDecimal? negative unsigned

end Double

end Vivarium
