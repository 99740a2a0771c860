import ApiStubs.Decimal.Binary64
import ApiStubs.Text.Character

/- Reading written numbers. An integer may have blanks around it, one sign, single underscores
   between its digits and digits of any script; in the bases 2, 8 and 16 it may carry its base mark.
   A decimal integer has at most 4300 digits. -/

set_option autoImplicit false

namespace ApiStubs.Decimal

open ApiStubs.Text

def digitLimit : Nat := 4300

def alphaDigit? (c : Char) : Option Nat :=
  let n := c.toNat
  if 0x61 ≤ n ∧ n ≤ 0x7A then some (n - 0x57)
  else if 0x41 ≤ n ∧ n ≤ 0x5A then some (n - 0x37)
  else decimalDigit? c

def digitIn (base : Nat) (c : Char) : Option Nat :=
  match alphaDigit? c with
  | some d => if d < base then some d else none
  | none => none

-- Digits with single underscores between them: the value and how many digits there were.
def readDigits (base : Nat) : List Char → Nat → Nat → Option (Nat × Nat)
  | [], acc, count => some (acc, count)
  | '_' :: c :: rest, acc, count =>
      match digitIn base c with
      | some d => readDigits base rest (acc * base + d) (count + 1)
      | none => none
  | c :: rest, acc, count =>
      match digitIn base c with
      | some d => readDigits base rest (acc * base + d) (count + 1)
      | none => none

def splitSign : List Char → Bool × List Char
  | '-' :: rest => (true, rest)
  | '+' :: rest => (false, rest)
  | cs => (false, cs)

def baseMark (base : Nat) (c : Char) : Bool :=
  (base == 2 && c.toLower == 'b') || (base == 8 && c.toLower == 'o') || (base == 16 && c.toLower == 'x')

def dropBaseMark (base : Nat) : List Char → List Char
  | '0' :: mark :: '_' :: rest => if baseMark base mark then rest else '0' :: mark :: '_' :: rest
  | '0' :: mark :: rest => if baseMark base mark then rest else '0' :: mark :: rest
  | cs => cs

def readMagnitude (base : Nat) (cs : List Char) : Option Nat :=
  match dropBaseMark base cs with
  | [] => none
  | c :: rest =>
      match digitIn base c with
      | none => none
      | some d =>
          match readDigits base rest d 1 with
          | none => none
          | some (n, count) => if base = 10 ∧ count > digitLimit then none else some n

def readInteger (base : Nat) (s : List Char) : Option Int :=
  let (negative, rest) := splitSign (trim isNumberBlank s)
  (readMagnitude base rest).map (Binary64.signed negative)

def integer? (s : String) : Option Int :=
  readInteger 10 s.toList

def spanDigits : List Char → List Nat × List Char
  | [] => ([], [])
  | c :: rest =>
      match decimalDigit? c with
      | some d => let (ds, tail) := spanDigits rest; (d :: ds, tail)
      | none => ([], c :: rest)

def ofDigits (ds : List Nat) : Nat :=
  ds.foldl (fun acc d => acc * 10 + d) 0

-- A power of ten after the mark of an exponent; all of the text has to be read.
def readExponent : List Char → Option Int
  | [] => some 0
  | c :: rest =>
      if c.toLower = 'e' then
        let (negative, tail) := splitSign rest
        match spanDigits tail with
        | (d :: ds, []) => some (Binary64.signed negative (ofDigits (d :: ds)))
        | _ => none
      else none

def readFraction (negative : Bool) (whole : List Nat) (rest : List Char) : Option Binary64 :=
  let (places, tail) :=
    match rest with
    | '.' :: more => spanDigits more
    | more => ([], more)
  if whole.isEmpty && places.isEmpty then none
  else
    (readExponent tail).map fun power =>
      Binary64.ofDecimal negative (ofDigits (whole ++ places)) (power - places.length)

-- The double nearest to a written number; infinities and not-a-number may be written by name.
def readDouble (s : List Char) : Option Binary64 :=
  let (negative, rest) := splitSign (trim isNumberBlank s)
  let name := String.ofList (rest.map Char.toLower)
  if name = "inf" ∨ name = "infinity" then some (.infinite negative)
  else if name = "nan" then some .nan
  else
    let (whole, tail) := spanDigits rest
    readFraction negative whole tail

end ApiStubs.Decimal
