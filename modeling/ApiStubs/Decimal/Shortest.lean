import ApiStubs.Decimal.Binary64

/- The shortest decimal text of a double: the fewest digits that read back as the same number, and
   of several such numerals the one nearest to it. Positional from `1e-04` up to below `1e+16`. -/

set_option autoImplicit false

namespace ApiStubs.Decimal

namespace Binary64

-- `p` such that `10 ^ (p - 1) ≤ num / den < 10 ^ p`, for a positive quotient.
def decimalPoint (num den : Nat) : Int :=
  let guess : Int := ((num.log2 : Int) - den.log2) * 30103 / 100000 - 1
  let below (p : Int) : Bool :=
    if 0 ≤ p then num < den * powerOfTen p.toNat else num * powerOfTen (-p).toNat < den
  if below guess then guess
  else if below (guess + 1) then guess + 1
  else if below (guess + 2) then guess + 2
  else guess + 3

-- The numeral with `count` digits nearest to `num / den`, if it reads back as `(mant, exp)`.
def numeral? (mant : Nat) (exp point : Int) (num den : Nat) (count : Nat) : Option Nat :=
  let shift : Int := count - point
  let (n, d) :=
    if 0 ≤ shift then (num * powerOfTen shift.toNat, den)
    else (num, den * powerOfTen (-shift).toNat)
  let low := n / d
  let readsBack (c : Nat) : Bool :=
    let read :=
      if 0 ≤ shift then roundQuotient c (powerOfTen shift.toNat)
      else roundQuotient (c * powerOfTen (-shift).toNat) 1
    read == some (mant, exp)
  let gap := n % d
  let upNearer := 2 * gap > d || (2 * gap == d && low % 2 == 1)
  let (first, second) := if upNearer then (low + 1, low) else (low, low + 1)
  if readsBack first then some first
  else if readsBack second then some second
  else none

-- Digits without trailing zeros and the place of the decimal point before which they stand: the number is
-- `0.digits * 10 ^ point`.
def shortestDigits (mant : Nat) (exp : Int) : List Char × Int :=
  let (num, den) := magnitude mant exp
  let point := decimalPoint num den
  let found := (List.range 17).findSome? fun k =>
    (numeral? mant exp point num den (k + 1)).map fun c => (c, k + 1)
  let (c, count) := found.getD (0, 17)
  let all := digits c
  let point := point + ((all.length : Int) - count)
  ((all.reverse.dropWhile (· == '0')).reverse, point)

def positional (ds : List Char) (point : Int) : List Char :=
  if point ≤ 0 then '0' :: '.' :: (zeros (-point).toNat ++ ds)
  else
    let whole := point.toNat
    if ds.length ≤ whole then ds ++ zeros (whole - ds.length) ++ ['.', '0']
    else ds.take whole ++ '.' :: ds.drop whole

def withExponent (ds : List Char) (point : Int) : List Char :=
  let power := point - 1
  let head :=
    match ds with
    | d :: [] => [d]
    | d :: rest => d :: '.' :: rest
    | [] => ['0']
  head ++ 'e' :: (if power < 0 then '-' else '+') :: padded 2 power.natAbs

def magnitudeText (mant : Nat) (exp : Int) : List Char :=
  if mant = 0 then ['0', '.', '0']
  else
    let (ds, point) := shortestDigits mant exp
    if -4 < point ∧ point ≤ 16 then positional ds point else withExponent ds point

def text : Binary64 → String
  | .nan => "nan"
  | .infinite false => "inf"
  | .infinite true => "-inf"
  | .finite negative mant exp =>
      String.ofList (if negative then '-' :: magnitudeText mant exp else magnitudeText mant exp)

end Binary64

end ApiStubs.Decimal
