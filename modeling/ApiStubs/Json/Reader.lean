import ApiStubs.Value.Entries
import ApiStubs.Decimal.Literal
import ApiStubs.Text.Hex

/- Reading JSON text. A fault names the problem and how many characters were left where it was met,
   from which its line, column and place are found. Numbers with a point or an exponent are doubles;
   `NaN` and the infinities are read by name. A repeated key keeps its first place and its last
   value. -/

set_option autoImplicit false

namespace ApiStubs.Json

open ApiStubs.Decimal ApiStubs.Text

inductive Problem where
  | value
  | propertyName
  | colon
  | comma
  | extraData
  | unterminated
  | controlCharacter
  | escape
  | unicodeEscape
  | byteOrderMark
deriving DecidableEq, Repr

-- `oversized` is a whole number with more digits than are read; it is no fault of syntax.
inductive Fault where
  | syntactic (problem : Problem) (left : Nat)
  | oversized (digits : Nat)
deriving DecidableEq, Repr

def Problem.text : Problem → String
  | .value => "Expecting value"
  | .propertyName => "Expecting property name enclosed in double quotes"
  | .colon => "Expecting ':' delimiter"
  | .comma => "Expecting ',' delimiter"
  | .extraData => "Extra data"
  | .unterminated => "Unterminated string starting at"
  | .controlCharacter => "Invalid control character at"
  | .escape => "Invalid \\escape"
  | .unicodeEscape => "Invalid \\uXXXX escape"
  | .byteOrderMark => "Unexpected UTF-8 BOM (decode using utf-8-sig)"

-- The problem and its place: line and column count from 1, characters from 0.
def placed (problem : Problem) (text : List Char) (left : Nat) : String :=
  let place := text.length - left
  let before := text.take place
  let line := before.count '\n' + 1
  let column := (before.reverse.takeWhile (· != '\n')).length + 1
  problem.text ++ ": line " ++ natText line ++ " column " ++ natText column ++
    " (char " ++ natText place ++ ")"

abbrev Read (α : Type) := Except Fault (α × List Char)

def fault {α : Type} (problem : Problem) (rest : List Char) : Except Fault α :=
  .error (.syntactic problem rest.length)

def isSpace (c : Char) : Bool :=
  c == ' ' || c == '\t' || c == '\n' || c == '\r'

def skipSpace (cs : List Char) : List Char :=
  cs.dropWhile isSpace

-- Four hexadecimal digits that are not the end of the text.
def unit? : List Char → Option Nat
  | a :: b :: c :: d :: _ :: _ => readHex [a, b, c, d] 0
  | _ => none

def simpleEscape? (c : Char) : Option Char :=
  match c with
  | '"' => some '"'
  | '\\' => some '\\'
  | '/' => some '/'
  | 'b' => some (Char.ofNat 8)
  | 'f' => some (Char.ofNat 12)
  | 'n' => some '\n'
  | 'r' => some '\r'
  | 't' => some '\t'
  | _ => none

-- The character of an escape whose backslash and `u` are read, and the width of its digits. A high unit
-- takes the escaped low unit after it.
def readUnits (cs : List Char) : Except Fault (Char × Nat) :=
  match unit? cs with
  | none => .error (.syntactic .unicodeEscape (cs.length + 1))
  | some n =>
      match isHighUnit n, cs.drop 4 with
      | true, '\\' :: 'u' :: tail =>
          if tail.length ≤ 4 then .ok (replacement, 4)
          else
            match unit? tail with
            | none => .error (.syntactic .unicodeEscape (tail.length + 1))
            | some m =>
                if isLowUnit m then .ok (charOfUnits n m, 10) else .ok (replacement, 4)
      | _, _ => .ok (charOfUnit n, 4)

def readEscape (opening : Nat) (cs : List Char) : Except Fault (Char × Nat) :=
  match cs with
  | [] => .error (.syntactic .unterminated opening)
  | 'u' :: digits => do
      let (c, width) ← readUnits digits
      return (c, width + 1)
  | c :: _ =>
      match simpleEscape? c with
      | some d => .ok (d, 1)
      | none => .error (.syntactic .escape (cs.length + 1))

-- The characters up to the closing quote and what follows it. `opening` is what was left at the opening
-- quote, `skip` how many characters belong to an escape already read.
def readChars (opening : Nat) : Nat → List Char → Read (List Char)
  | _, [] => .error (.syntactic .unterminated opening)
  | skip + 1, _ :: rest => readChars opening skip rest
  | 0, c :: rest =>
      if c = '"' then .ok ([], rest)
      else if c = '\\' then
        match readEscape opening rest with
        | .error e => .error e
        | .ok (d, width) =>
            match readChars opening width rest with
            | .error e => .error e
            | .ok (ds, tail) => .ok (d :: ds, tail)
      else if c.toNat < 0x20 then fault .controlCharacter (c :: rest)
      else
        match readChars opening 0 rest with
        | .error e => .error e
        | .ok (ds, tail) => .ok (c :: ds, tail)

def readText (cs : List Char) : Read String :=
  match readChars (cs.length + 1) 0 cs with
  | .error e => .error e
  | .ok (ds, rest) => .ok (String.ofList ds, rest)

def isDigit (c : Char) : Bool :=
  0x30 ≤ c.toNat && c.toNat ≤ 0x39

def digitValue (c : Char) : Nat :=
  c.toNat - 0x30

def natOf (ds : List Char) : Nat :=
  ds.foldl (fun acc c => acc * 10 + digitValue c) 0

def splitDigits (cs : List Char) : List Char × List Char :=
  (cs.takeWhile isDigit, cs.dropWhile isDigit)

-- Whole digits: a lone zero, or digits that do not begin with one.
def wholeDigits (cs : List Char) : List Char × List Char :=
  match cs with
  | '0' :: rest => (['0'], rest)
  | cs => splitDigits cs

def fractionDigits (cs : List Char) : List Char × List Char :=
  match cs with
  | '.' :: rest =>
      match splitDigits rest with
      | ([], _) => ([], cs)
      | split => split
  | cs => ([], cs)

def splitSign : List Char → Bool × List Char
  | '-' :: rest => (true, rest)
  | '+' :: rest => (false, rest)
  | cs => (false, cs)

def exponentPart (cs : List Char) : Option Int × List Char :=
  match cs with
  | c :: rest =>
      if c = 'e' ∨ c = 'E' then
        let (negative, tail) := splitSign rest
        match splitDigits tail with
        | ([], _) => (none, cs)
        | (ds, more) => (some (Binary64.signed negative (natOf ds)), more)
      else (none, cs)
  | [] => (none, [])

-- A number after its sign; `none` where no digit stands.
def readUnsigned (negative : Bool) (cs : List Char) : Option (Read Value) :=
  match wholeDigits cs with
  | ([], _) => none
  | (whole, rest) =>
      let (places, rest) := fractionDigits rest
      let (power, rest) := exponentPart rest
      if places.isEmpty && power.isNone then
        if whole.length > digitLimit then some (.error (.oversized whole.length))
        else some (.ok (.int (Binary64.signed negative (natOf whole)), rest))
      else
        let scale := power.getD 0 - places.length
        some (.ok (.float (Binary64.ofDecimal negative (natOf (whole ++ places)) scale), rest))

def names : List (List Char × Value) :=
  [("null".toList, .null), ("true".toList, .bool true), ("false".toList, .bool false),
   ("NaN".toList, .float .nan), ("Infinity".toList, .float (.infinite false)),
   ("-Infinity".toList, .float (.infinite true))]

def readName (cs : List Char) : Option (Value × List Char) :=
  names.findSome? fun e => if e.1.isPrefixOf cs then some (e.2, cs.drop e.1.length) else none

-- A value that is neither text nor container.
def readScalar (cs : List Char) : Read Value :=
  match readName cs with
  | some found => .ok found
  | none =>
      let number :=
        match cs with
        | '-' :: rest => readUnsigned true rest
        | cs => readUnsigned false cs
      match number with
      | some result => result
      | none => fault .value cs

mutual

-- The budget bounds the steps left; every two of them read a character.
def readValue : Nat → List Char → Read Value
  | 0, cs => fault .value cs
  | budget + 1, cs =>
      match cs with
      | '"' :: rest =>
          match readText rest with
          | .error e => .error e
          | .ok (s, tail) => .ok (.str s, tail)
      | '[' :: rest =>
          match skipSpace rest with
          | ']' :: tail => .ok (.list [], tail)
          | cs =>
              match readItems budget cs with
              | .error e => .error e
              | .ok (items, tail) => .ok (.list items, tail)
      | '\x7b' :: rest =>
          match skipSpace rest with
          | '\x7d' :: tail => .ok (.map [], tail)
          | cs =>
              match readMembers budget [] cs with
              | .error e => .error e
              | .ok (entries, tail) => .ok (.map entries, tail)
      | cs => readScalar cs

def readItems : Nat → List Char → Read (List Value)
  | 0, cs => fault .value cs
  | budget + 1, cs =>
      match readValue budget cs with
      | .error e => .error e
      | .ok (v, rest) =>
          match skipSpace rest with
          | ']' :: tail => .ok ([v], tail)
          | ',' :: tail =>
              match readItems budget (skipSpace tail) with
              | .error e => .error e
              | .ok (items, tail) => .ok (v :: items, tail)
          | cs => fault .comma cs

def readMembers : Nat → Entries → List Char → Read Entries
  | 0, _, cs => fault .value cs
  | budget + 1, entries, cs =>
      match cs with
      | '"' :: rest =>
          match readText rest with
          | .error e => .error e
          | .ok (name, rest) =>
              match skipSpace rest with
              | ':' :: rest =>
                  match readValue budget (skipSpace rest) with
                  | .error e => .error e
                  | .ok (v, rest) =>
                      let entries := entries.put (.str name) v
                      match skipSpace rest with
                      | '\x7d' :: tail => .ok (entries, tail)
                      | ',' :: tail => readMembers budget entries (skipSpace tail)
                      | cs => fault .comma cs
              | cs => fault .colon cs
      | cs => fault .propertyName cs

end

def readDocument (cs : List Char) : Except Fault Value :=
  match cs with
  | '\uFEFF' :: _ => fault .byteOrderMark cs
  | _ =>
      match readValue (2 * cs.length + 2) (skipSpace cs) with
      | .error e => .error e
      | .ok (v, rest) =>
          match skipSpace rest with
          | [] => .ok v
          | tail => fault .extraData tail

def read (s : String) : Except Fault Value :=
  readDocument s.toList

end ApiStubs.Json
