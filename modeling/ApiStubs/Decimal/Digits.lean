/- Decimal digits of natural numbers, their padding, and the powers by which numbers are scaled. -/

set_option autoImplicit false

namespace ApiStubs.Decimal

def digits (n : Nat) : List Char :=
  Nat.toDigits 10 n

def natText (n : Nat) : String :=
  String.ofList (digits n)

def intText : Int → String
  | .ofNat n => natText n
  | .negSucc n => "-" ++ natText (n + 1)

def zeros (count : Nat) : List Char :=
  List.replicate count '0'

def padded (width n : Nat) : List Char :=
  zeros (width - (digits n).length) ++ digits n

def paddedText (width n : Nat) : String :=
  String.ofList (padded width n)

def powerOfTwo (n : Nat) : Nat :=
  Nat.pow 2 n

def powerOfTen (n : Nat) : Nat :=
  Nat.pow 10 n

end ApiStubs.Decimal
