import ApiStubs.Yaml.Cursor
import ApiStubs.Yaml.Tag
import ApiStubs.Decimal.Literal
import ApiStubs.Value.Basic

/- The values of tagged scalars. Numbers may hold bars anywhere and be written in base sixty, with
   colons; a leading zero makes a whole number octal. -/

set_option autoImplicit false

namespace ApiStubs.Yaml

open ApiStubs.Decimal

def boolValues : List (String × Bool) :=
  [("yes", true), ("no", false), ("true", true), ("false", false), ("on", true), ("off", false)]

def boolOf (text : String) : Result Value :=
  match boolValues.lookup (String.ofList (text.toList.map Char.toLower)) with
  | some b => .ok (.bool b)
  | none => .error .unknownName

-- The sign and the rest of a number without its bars; the text must not be empty.
def signAndRest (text : String) : Result (Bool × List Char) :=
  match text.toList.filter (· != '_') with
  | [] => .error .emptyText
  | '-' :: rest => .ok (true, rest)
  | '+' :: rest => .ok (false, rest)
  | cs => .ok (false, cs)

def splitColons (cs : List Char) : List (List Char) :=
  match cs with
  | [] => [[]]
  | c :: rest =>
      match splitColons rest with
      | part :: parts => if c == ':' then [] :: part :: parts else (c :: part) :: parts
      | [] => [[c]]

def readBase (base : Nat) (cs : List Char) : Result Int :=
  match readInteger base cs with
  | some n => .ok n
  | none => .error .badValue

def unsignedInt (cs : List Char) : Result Int :=
  match cs with
  | [] => .error .emptyText
  | ['0'] => .ok 0
  | '0' :: 'b' :: rest => readBase 2 rest
  | '0' :: 'x' :: rest => readBase 16 rest
  | '0' :: _ => readBase 8 cs
  | cs =>
      if cs.contains ':' then do
        let parts ← (splitColons cs).mapM (readBase 10)
        return parts.foldl (fun acc d => acc * 60 + d) 0
      else readBase 10 cs

def intOf (text : String) : Result Value := do
  let (negative, rest) ← signAndRest text
  let n ← unsignedInt rest
  return .int (if negative then -n else n)

def doubleOf (cs : List Char) : Result Binary64 :=
  match readDouble cs with
  | some x => .ok x
  | none => .error .badValue

-- The sum of the parts, the last first, each times its power of sixty and rounded at every step.
def sumOfSixties : List Binary64 → Nat → Binary64 → Result Binary64
  | [], _, sum => .ok sum
  | x :: rest, power, sum =>
      match x.mulNat power with
      | some term => sumOfSixties rest (power * 60) (sum.add term)
      | none => .error .tooLarge

def unsignedFloat (cs : List Char) : Result Binary64 :=
  let name := String.ofList cs
  if name == ".inf" then .ok (.infinite false)
  else if name == ".nan" then .ok .nan
  else if cs.contains ':' then do
    let parts ← (splitColons cs).mapM doubleOf
    sumOfSixties parts.reverse 1 (.finite false 0 Binary64.leastExp)
  else doubleOf cs

def floatOf (text : String) : Result Value := do
  let (negative, rest) ← signAndRest text
  let x ← unsignedFloat (rest.map Char.toLower)
  return .float (if negative then x.negate else x)

def natOf (ds : List Char) : Nat :=
  ds.foldl (fun acc d => acc * 10 + (d.toNat - 0x30)) 0

def microOf (places : List Char) : Nat :=
  natOf ((places ++ List.replicate 6 '0').take 6)

def offsetOf (s : Tag.Stamp) : Option Int :=
  match s.zone with
  | some (west, hour, minute) =>
      let minutes : Int := natOf hour * 60 + natOf minute
      some (if west then -minutes else minutes)
  | none => if s.universal then some 0 else none

def timestampOf (text : String) : Result Value :=
  match Tag.stamp? (Tag.dropFinalFeed text.toList) with
  | none => .error .notTimestamp
  | some s =>
      let date : Date := ⟨natOf s.year, natOf s.month, natOf s.day⟩
      match s.clock with
      | none => if date.isValid then .ok (.date date) else .error .badValue
      | some (hour, minute, second) =>
          let moment : DateTime :=
            ⟨date, natOf hour, natOf minute, natOf second, microOf s.fraction, offsetOf s⟩
          if moment.isValid then .ok (.dateTime moment) else .error .badValue

def sextet? (c : Char) : Option Nat :=
  let n := c.toNat
  if c.isUpper then some (n - 0x41)
  else if c.isLower then some (n - 0x61 + 26)
  else if c.isDigit then some (n - 0x30 + 52)
  else if c == '+' then some 62
  else if c == '/' then some 63
  else none

-- Base 64: four characters make three bytes. Characters outside the alphabet are passed over; `place` is
-- the position in the group of four, `held` the bits not yet written.
def decode64 : (place held pads : Nat) → List Char → Option (List UInt8)
  | place, _, _, [] => if place = 0 then some [] else none
  | place, held, pads, c :: rest =>
      if c == '=' then
        if 2 ≤ place then
          if 4 ≤ place + pads + 1 then some [] else decode64 place held (pads + 1) rest
        else decode64 place held pads rest
      else
        match sextet? c with
        | none => decode64 place held pads rest
        | some d =>
            match place with
            | 0 => decode64 1 d 0 rest
            | 1 => (decode64 2 (d % 16) 0 rest).map (UInt8.ofNat (held * 4 + d / 16) :: ·)
            | 2 => (decode64 3 (d % 4) 0 rest).map (UInt8.ofNat (held * 16 + d / 4) :: ·)
            | _ => (decode64 0 0 0 rest).map (UInt8.ofNat (held * 64 + d) :: ·)

def binaryOf (text : String) : Result Value :=
  if text.toList.all fun c => c.toNat < 0x80 then
    match decode64 0 0 0 text.toList with
    | some bytes => .ok (.bytes ⟨bytes.toArray⟩)
    | none => malformed
  else malformed

end ApiStubs.Yaml
