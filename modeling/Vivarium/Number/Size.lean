import Vivarium.Number.Writing

/-!
# Sizes in memory

A size is written in the greatest binary unit that it reaches, with three significant digits, or with
all digits before the point when there are more.
-/

namespace Vivarium

/-- The names of the binary units, each 1024 times the one before. -/
def binaryUnits : List String := ["bytes", "KiB", "MiB", "GiB", "TiB", "PiB", "EiB"]

/-- A number from one on, below a thousand, with three significant digits and always a point. -/
def threeDigits (x : Rat) : String :=
  if nearestInteger (x * 100) < 1000 then (Double.finite x).fixedText 2
  else if nearestInteger (x * 10) < 1000 then (Double.finite x).fixedText 1
  else (Double.finite x).fixedText 0 ++ "."

/-- A number of bytes in a binary unit. -/
def sizeIn (unit : Nat) (amount : Rat) : String :=
  (if unit = 0 then (Double.finite amount).fixedText 0
    else if nearestInteger amount < 1000 then threeDigits amount
    else (Double.finite amount).fixedText 0 ++ ".") ++ " " ++ binaryUnits.getD unit "EiB"

/-- A number of bytes in the greatest unit that it reaches, which it also does by rounding. -/
def sizeText (bytes : Nat) : String :=
  let unit := bytes.log2 / 10
  let amount := BinaryFormat.binary64.round ((bytes : Rat) / ((1 <<< (10 * unit) : Nat) : Rat))
  if nearestInteger amount = 1024 then sizeIn (unit + 1) (amount / 1024) else sizeIn unit amount

end Vivarium
