import ApiStubs.Decimal.Digits

/- Binary floating-point numbers of 64 bits, held exactly. A finite number is `mant * 2 ^ exp` with
   `mant < 2 ^ 53` and `-1074 ≤ exp ≤ 971`; unless `exp` is the least one, `2 ^ 52 ≤ mant`, so that
   equal numbers have equal parts. Rounding is of an exact quotient, to the nearest, ties to even. -/

set_option autoImplicit false

namespace ApiStubs.Decimal

inductive Binary64 where
  | nan
  | infinite (negative : Bool)
  | finite (negative : Bool) (mant : Nat) (exp : Int)
deriving DecidableEq, Repr, Inhabited

namespace Binary64

def leastExp : Int := -1074

def greatestExp : Int := 971

def roundHalfEven (num den : Nat) : Nat :=
  let q := num / den
  let r := num % den
  if 2 * r > den || (2 * r == den && q % 2 == 1) then q + 1 else q

-- The exponent of the unit in the last place of `num / den`, for positive parts.
def unitExp (num den : Nat) : Int :=
  let scale : Int := (num.log2 : Int) - den.log2
  let reaches :=
    if 0 ≤ scale then den * powerOfTwo scale.toNat ≤ num else den ≤ num * powerOfTwo (-scale).toNat
  max leastExp (if reaches then scale - 52 else scale - 53)

-- The nearest significand and exponent, or `none` beyond the greatest finite number.
def roundQuotient (num den : Nat) : Option (Nat × Int) :=
  if num = 0 then some (0, leastExp)
  else
    let exp := unitExp num den
    let mant :=
      if 0 ≤ exp then roundHalfEven num (den * powerOfTwo exp.toNat)
      else roundHalfEven (num * powerOfTwo (-exp).toNat) den
    let (mant, exp) := if mant = powerOfTwo 53 then (powerOfTwo 52, exp + 1) else (mant, exp)
    if exp > greatestExp then none else some (mant, exp)

def ofQuotient (negative : Bool) (num den : Nat) : Binary64 :=
  match roundQuotient num den with
  | some (mant, exp) => .finite negative mant exp
  | none => .infinite negative

-- The double nearest to `significand * 10 ^ exp`. Far outside the range of doubles the power of ten is not
-- formed.
def ofDecimal (negative : Bool) (significand : Nat) (exp : Int) : Binary64 :=
  let width : Int := (Nat.toDigits 10 significand).length
  if significand = 0 then .finite negative 0 leastExp
  else if exp + width > 400 then .infinite negative
  else if exp + width < -400 then .finite negative 0 leastExp
  else if 0 ≤ exp then ofQuotient negative (significand * powerOfTen exp.toNat) 1
  else ofQuotient negative significand (powerOfTen (-exp).toNat)

-- Numerator and denominator of the magnitude `mant * 2 ^ exp`.
def magnitude (mant : Nat) (exp : Int) : Nat × Nat :=
  if 0 ≤ exp then (mant * powerOfTwo exp.toNat, 1) else (mant, powerOfTwo (-exp).toNat)

def isZero : Binary64 → Bool
  | .finite _ mant _ => mant == 0
  | _ => false

def signed (negative : Bool) (n : Nat) : Int :=
  if negative then -(n : Int) else n

-- The integer that a finite number without fraction is.
def toInt? : Binary64 → Option Int
  | .finite negative mant exp =>
      let (num, den) := magnitude mant exp
      if num % den = 0 then some (signed negative (num / den)) else none
  | _ => none

def isFinite : Binary64 → Bool
  | .finite .. => true
  | _ => false

-- Equality as numbers: the two zeros are equal and not-a-number equals nothing.
def sameNumber : Binary64 → Binary64 → Bool
  | .finite s m e, .finite t n f => (m == 0 && n == 0) || (s == t && m == n && e == f)
  | .infinite s, .infinite t => s == t
  | _, _ => false

def negate : Binary64 → Binary64
  | .nan => .nan
  | .infinite s => .infinite !s
  | .finite s m e => .finite (!s) m e

-- A finite number as a whole number of units `2 ^ -1074`.
def scaled (negative : Bool) (mant : Nat) (exp : Int) : Int :=
  signed negative (mant * powerOfTwo (exp - leastExp).toNat)

def ofScaled (n : Int) (den : Nat) : Binary64 :=
  ofQuotient (n < 0) n.natAbs (den * powerOfTwo (-leastExp).toNat)

def add : Binary64 → Binary64 → Binary64
  | .finite s m e, .finite t n f =>
      if m = 0 ∧ n = 0 then .finite (s && t) 0 leastExp
      else ofScaled (scaled s m e + scaled t n f) 1
  | .nan, _ => .nan
  | _, .nan => .nan
  | .infinite s, .infinite t => if s = t then .infinite s else .nan
  | .infinite s, _ => .infinite s
  | _, .infinite t => .infinite t

-- The product with a whole number, itself rounded to a double first; `none` when it is too large for one.
def mulNat (x : Binary64) (factor : Nat) : Option Binary64 :=
  match roundQuotient factor 1 with
  | none => none
  | some (n, f) =>
      match x with
      | .finite s m e =>
          let (num, den) := magnitude m e
          let (num', den') := magnitude n f
          some (ofQuotient s (num * num') (den * den'))
      | .infinite s => some (if n = 0 then .nan else .infinite s)
      | .nan => some .nan

end Binary64

end ApiStubs.Decimal
