/-!
The shortest decimal text that reads back as a given binary floating-point number. The number is
`m * 2 ^ e` exactly; a decimal reads back as it when it lies between the midpoints to its two
neighbours, the midpoints included when `m` is even. Among the shortest such decimals the nearest
is taken.
-/

namespace Tether.Text

/-- A positive number `m * 2 ^ (up - down)`, and whether the neighbour below it is only half as
far as the one above. -/
structure BinaryValue where
  mantissa : Nat
  up : Nat
  down : Nat
  narrowBelow : Bool

/-- The parts of a finite positive number in the 64-bit format. -/
def BinaryValue.ofBits (bits : UInt64) : BinaryValue :=
  let field := (bits.toNat / Nat.pow 2 52) % 2048
  let low := bits.toNat % Nat.pow 2 52
  let mantissa := if field = 0 then low else low + Nat.pow 2 52
  let exponent := if field = 0 then 1 else field
  { mantissa
    up := exponent - 1075
    down := 1075 - exponent
    narrowBelow := low = 0 && decide (1 < field) }

/-- The interval of reals that read back as the value, over the common denominator
`4 * 2 ^ down`: the value, the lower midpoint and the upper one. -/
def BinaryValue.scaled (v : BinaryValue) : Nat × Nat × Nat :=
  let unit := Nat.pow 2 v.up
  let value := 4 * v.mantissa * unit
  (value, value - (if v.narrowBelow then unit else 2 * unit), value + 2 * unit)

/-- The least `p` with `value < 10 ^ p` for a fraction of at least one, searched upwards. -/
def digitsBefore (num den : Nat) : Nat → Nat → Nat
  | 0, p => p
  | fuel + 1, p => if num < Nat.pow 10 p * den then p else digitsBefore num den fuel (p + 1)

/-- The number of zeros between the point and the first digit of a fraction below one. -/
def zerosAfter (num den : Nat) : Nat → Nat → Nat
  | 0, z => z
  | fuel + 1, z => if den ≤ num * Nat.pow 10 (z + 1) then z else zerosAfter num den fuel (z + 1)

/-- The decimal exponent `p` of a positive fraction: `10 ^ (p - 1) ≤ num / den < 10 ^ p`. -/
def decimalExponent (num den : Nat) : Int :=
  if den ≤ num then digitsBefore num den 400 0 else -(zerosAfter num den 400 0 : Int)

/-- The decimal with `count` digits nearest to the value among those that read back as it, as its
digits' number. The digits stand `count` places to the right of `10 ^ exponent`. -/
def BinaryValue.digits? (v : BinaryValue) (exponent : Int) (count : Nat) : Option Nat :=
  let (value, low, high) := v.scaled
  let den := 4 * Nat.pow 2 v.down
  let shift := (count : Int) - exponent
  -- the value in units of the last place is `value * mul / (den * div)`
  let mul := Nat.pow 10 shift.toNat
  let div := den * Nat.pow 10 (-shift).toNat
  let below := value * mul / div
  let inside (q : Nat) : Bool :=
    if v.mantissa % 2 = 0 then low * mul ≤ q * div && q * div ≤ high * mul
    else low * mul < q * div && q * div < high * mul
  match inside below, inside (below + 1) with
  | false, false => none
  | true, false => some below
  | false, true => some (below + 1)
  | true, true =>
    if 2 * (value * mul) ≤ (2 * below + 1) * div then some below else some (below + 1)

/-- The fewest digits, tried from `count` upwards; seventeen always suffice. -/
def BinaryValue.fewest (v : BinaryValue) (exponent : Int) : Nat → Nat → Nat
  | 0, count => (v.digits? exponent count).getD 0
  | fuel + 1, count =>
    match v.digits? exponent count with
    | some n => n
    | none => v.fewest exponent fuel (count + 1)

/-- Digits with a point after the first `places` of them. A side without digits shows a zero. -/
def placePoint (digits : List Char) (places : Int) : String :=
  let size := digits.length
  if places ≤ 0 then
    "0." ++ String.ofList (List.replicate (-places).toNat '0' ++ digits)
  else if size ≤ places.toNat then
    String.ofList (digits ++ List.replicate (places.toNat - size) '0') ++ ".0"
  else
    String.ofList (digits.take places.toNat) ++ "." ++ String.ofList (digits.drop places.toNat)

/-- A digit before the point, the rest after it, and a power of ten. A single digit has no point. -/
def scientific (digits : List Char) (exponent : Int) : String :=
  let power := "e" ++ (if exponent < 0 then "-" else "") ++ toString exponent.natAbs
  match digits with
  | [] => "0" ++ power
  | [d] => String.ofList [d] ++ power
  | d :: rest => String.ofList (d :: '.' :: rest) ++ power

/-- The shortest text of a number that is not negative. Numbers from `1e-4` up to `1e16` are
written out with a point, all others with a power of ten. -/
def shortest (x : Float) : String :=
  if x == 0.0 then "0.0"
  else
    let v := BinaryValue.ofBits x.toBits
    let (value, _, _) := v.scaled
    let exponent := decimalExponent value (4 * Nat.pow 2 v.down)
    let n := v.fewest exponent 17 1
    let spelled := Nat.toDigits 10 n
    -- rounding up to a power of ten leaves one digit more than was asked for
    let carried := 1 < spelled.length && n == Nat.pow 10 (spelled.length - 1)
    let exponent := if carried then exponent + 1 else exponent
    let digits := (spelled.reverse.dropWhile (· == '0')).reverse
    if -4 < exponent && exponent ≤ 16 then placePoint digits exponent
    else scientific digits (exponent - 1)

end Tether.Text
