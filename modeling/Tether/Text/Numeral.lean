/-!
Unsigned decimal numerals: one or more ASCII digits behind an optional plus sign, with a largest
value allowed. Leading zeros are allowed; separators, points, exponents and minus signs are not.
-/

namespace Tether.Text

/-- The number that the digits spell, most significant first, continuing from `value`. -/
def digitsFrom (value : Nat) : List Char → Option Nat
  | [] => some value
  | c :: rest => if c.isDigit then digitsFrom (10 * value + (c.toNat - '0'.toNat)) rest else none

/-- The value of one or more digits. The empty text spells no number. -/
def digitsValue : List Char → Option Nat
  | [] => none
  | cs => digitsFrom 0 cs

/-- A plus sign in front is dropped, once. -/
def dropPlus : List Char → List Char
  | '+' :: rest => rest
  | cs => cs

/-- The numeral's value if the text is one and its value is at most `largest`. -/
def numeral (largest : Nat) (cs : List Char) : Option Nat :=
  (digitsValue (dropPlus cs)).filter (· ≤ largest)

/-- Largest values of the three widths that settings and ports use. -/
def max16 : Nat := 65535

def max32 : Nat := 4294967295

def max64 : Nat := 18446744073709551615

end Tether.Text
