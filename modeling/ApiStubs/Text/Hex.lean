/- Hexadecimal digits, small letters, and the units of sixteen bits that escapes give with them. A character above
   the first plane is written as two units, a high one and a low one. No text holds half of a pair: a unit of either
   kind that stands alone reads as the replacement character. -/

set_option autoImplicit false

namespace ApiStubs.Text

def hexDigit (n : Nat) : Char :=
  if n < 10 then Char.ofNat (0x30 + n) else Char.ofNat (0x57 + n)

def hexDigit? (c : Char) : Option Nat :=
  let n := c.toNat
  if 0x30 ≤ n ∧ n ≤ 0x39 then some (n - 0x30)
  else if 0x61 ≤ n ∧ n ≤ 0x66 then some (n - 0x57)
  else if 0x41 ≤ n ∧ n ≤ 0x46 then some (n - 0x37)
  else none

-- The last `width` hexadecimal digits of `n`.
def hexDigits (width n : Nat) : List Char :=
  match width with
  | 0 => []
  | width + 1 => hexDigits width (n / 16) ++ [hexDigit (n % 16)]

def readHex : List Char → Nat → Option Nat
  | [], acc => some acc
  | c :: rest, acc =>
      match hexDigit? c with
      | some d => readHex rest (acc * 16 + d)
      | none => none

theorem hex_digits_length (width n : Nat) : (hexDigits width n).length = width := by
  induction width generalizing n with
  | zero => rfl
  | succ width ih => simp [hexDigits, ih]

def isHighUnit (n : Nat) : Bool := 0xD800 ≤ n && n ≤ 0xDBFF

def isLowUnit (n : Nat) : Bool := 0xDC00 ≤ n && n ≤ 0xDFFF

def replacement : Char := Char.ofNat 0xFFFD

def charOfUnit (n : Nat) : Char :=
  if isHighUnit n || isLowUnit n then replacement else Char.ofNat n

def charOfUnits (high low : Nat) : Char :=
  Char.ofNat (0x10000 + (high - 0xD800) * 0x400 + (low - 0xDC00))

end ApiStubs.Text
