import Vivarium.Text.Printable

/-!
# Quoted texts

A text is shown between single quotes, or between double quotes when it holds a single quote and no
double one. The quote in use, backslashes and unprintable characters are escaped.
-/

namespace Vivarium.Text

/-- The digit for a value below sixteen, in lower case. -/
def hexDigit (value : Nat) : Char :=
  Nat.digitChar value

/-- The lowest `width` hexadecimal digits of a number. -/
def hexDigits (value : Nat) : Nat → List Char
  | 0 => []
  | width + 1 => hexDigits (value / 16) width ++ [hexDigit (value % 16)]

/-- One character as it stands between the given quotes. -/
def escape (quote c : Char) : List Char :=
  if c = quote ∨ c = '\\' then ['\\', c]
  else if c = '\n' then ['\\', 'n']
  else if c = '\r' then ['\\', 'r']
  else if c = '\t' then ['\\', 't']
  else if isPrintable c then [c]
  else if c.toNat < 0x100 then '\\' :: 'x' :: hexDigits c.toNat 2
  else if c.toNat < 0x10000 then '\\' :: 'u' :: hexDigits c.toNat 4
  else '\\' :: 'U' :: hexDigits c.toNat 8

/-- The quote that surrounds a text. -/
def quoteFor (s : List Char) : Char :=
  if s.contains '\'' && !s.contains '"' then '"' else '\''

/-- A text in quotes, with escapes. -/
def quoted (s : String) : String :=
  let quote := quoteFor s.toList
  String.ofList (quote :: s.toList.flatMap (escape quote) ++ [quote])

end Vivarium.Text
