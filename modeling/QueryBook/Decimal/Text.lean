import QueryBook.Decimal.Shortest

set_option autoImplicit false

namespace QueryBook.Decimal

-- How a number is laid out: positional as long as the point lies after more than `lowest` and at
-- most `highest` digits, with an exponent of at least `exponentDigits` digits otherwise.
structure Layout where
  lowest : Int
  highest : Int
  exponentDigits : Nat
  nan : String
  infinity : String

def dataLayout : Layout := ⟨-4, 16, 2, "nan", "inf"⟩

def dropZeros (ds : List Char) : List Char :=
  match (ds.reverse.dropWhile (· == '0')).reverse with
  | [] => ['0']
  | kept => kept

def zeros (n : Nat) : List Char :=
  List.replicate n '0'

-- `ds` are the digits and `point` is the number of them before the decimal point.
def Layout.positional (ds : List Char) (point : Int) : List Char :=
  if point ≤ 0 then '0' :: '.' :: zeros (-point).toNat ++ ds
  else if ds.length ≤ point.toNat then ds ++ zeros (point.toNat - ds.length) ++ ['.', '0']
  else ds.take point.toNat ++ '.' :: ds.drop point.toNat

def Layout.scientific (layout : Layout) (ds : List Char) (point : Int) : List Char :=
  let power := point - 1
  let magnitude := Nat.toDigits 10 power.natAbs
  let mantissa :=
    match ds with
    | d :: e :: rest => d :: '.' :: e :: rest
    | short => short
  mantissa ++ 'e' :: (if power < 0 then '-' else '+') ::
    zeros (layout.exponentDigits - magnitude.length) ++ magnitude

def Layout.digitsText (layout : Layout) (d : Digits) : List Char :=
  let all := Nat.toDigits 10 d.digits
  let point := d.exponent + all.length
  let ds := dropZeros all
  if layout.lowest < point ∧ point ≤ layout.highest then Layout.positional ds point
  else layout.scientific ds point

def Layout.text (layout : Layout) (x : Float) : String :=
  let bits := x.toBits
  let magnitude := bits.toNat % twoTo 63
  let sign := if bits.toNat < twoTo 63 then "" else "-"
  if magnitude = 0 then sign ++ "0.0"
  else if magnitude < 2047 * twoTo 52 then
    sign ++ String.ofList (layout.digitsText (Binary.ofBits bits).shortest)
  else if magnitude = 2047 * twoTo 52 then sign ++ layout.infinity
  else layout.nan

def toFloat? (negative : Bool) (mantissa : Nat) (exponent : Int) : Option Float :=
  let magnitude := countDigits mantissa + exponent
  let size : Option Float :=
    if mantissa = 0 ∨ magnitude < -400 then some 0.0
    else if 400 < magnitude then none
    else
      let x := Float.ofScientific mantissa (decide (exponent < 0)) exponent.natAbs
      if x.isInf then none else some x
  size.map fun x => if negative then -x else x

end QueryBook.Decimal
