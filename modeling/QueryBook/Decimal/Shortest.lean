set_option autoImplicit false

namespace QueryBook.Decimal

abbrev twoTo (n : Nat) : Nat := Nat.pow 2 n

abbrev tenTo (n : Nat) : Nat := Nat.pow 10 n

-- The positive number `mantissa * 2 ^ exponent`, and whether the number below it is half as far
-- away as the number above it.
structure Binary where
  mantissa : Nat
  exponent : Int
  narrowBelow : Bool

def Binary.ofBits (bits : UInt64) : Binary :=
  let fraction : Nat := bits.toNat % twoTo 52
  let biased : Nat := bits.toNat / twoTo 52 % twoTo 11
  if biased = 0 then ⟨fraction, -1074, false⟩
  else
    ⟨twoTo 52 + fraction, (biased : Int) - 1075, decide (fraction = 0) && decide (biased ≠ 1)⟩

def countDigits (n : Nat) : Nat :=
  (Nat.toDigits 10 n).length

def Binary.magnitude (b : Binary) : Int :=
  let scaled :=
    if b.exponent < 0 then b.mantissa * tenTo 400 / twoTo (-b.exponent).toNat
    else b.mantissa * twoTo b.exponent.toNat * tenTo 400
  (countDigits scaled : Int) - 401

structure Digits where
  digits : Nat
  exponent : Int
  deriving DecidableEq, Repr

-- The better of the two decimals around `b` on the grid of multiples of `10 ^ exponent`, if one of
-- them reads back as `b`. Quarters of the last binary place keep the ends of the interval whole.
def Binary.onGrid? (b : Binary) (exponent : Int) : Option Digits :=
  let binaryScale := twoTo (b.exponent - 2).toNat * tenTo (-exponent).toNat
  let decimalScale := tenTo exponent.toNat * twoTo (2 - b.exponent).toNat
  let value := 4 * b.mantissa * binaryScale
  let low := (4 * b.mantissa - if b.narrowBelow then 1 else 2) * binaryScale
  let high := (4 * b.mantissa + 2) * binaryScale
  let inside (x : Nat) : Bool :=
    if b.mantissa % 2 = 0 then low ≤ x && x ≤ high else low < x && x < high
  let below := value / decimalScale
  let above := below + 1
  let belowHits := inside (below * decimalScale) && below ≠ 0
  let aboveHits := inside (above * decimalScale)
  let toBelow := value - below * decimalScale
  let toAbove := above * decimalScale - value
  if belowHits && (!aboveHits || toBelow < toAbove || (toBelow = toAbove && below % 2 = 0)) then
    some ⟨below, exponent⟩
  else if aboveHits then some ⟨above, exponent⟩
  else none

-- Tries ever finer grids; seventeen digits always suffice for a double.
def Binary.searchGrids (b : Binary) (magnitude : Int) : Nat → Nat → Digits
  | _, 0 => ⟨b.mantissa, b.exponent⟩
  | count, left + 1 =>
    match b.onGrid? (magnitude - count) with
    | some d => d
    | none => searchGrids b magnitude (count + 1) left

def Binary.shortest (b : Binary) : Digits :=
  b.searchGrids b.magnitude 0 20

end QueryBook.Decimal
