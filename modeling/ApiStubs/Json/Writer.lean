import ApiStubs.Decimal.Literal
import ApiStubs.Error
import ApiStubs.Text.Hex

/- Values as JSON text. A layout says whether containers are broken over lines, whether characters
   outside ASCII are escaped, and whether a value of a kind JSON lacks is written as its display
   text or refused. Keys that are numbers, truth values or null become text; other keys are refused
   under every layout, and so is a whole number with more digits than are read. -/

set_option autoImplicit false

namespace ApiStubs.Json

open ApiStubs.Decimal ApiStubs.Text

structure Layout where
  indent : Option Nat
  asciiOnly : Bool
  describeOthers : Bool

-- Two blanks a level, characters kept.
def Layout.document : Layout := ⟨some 2, false, false⟩

-- As `document`, with other kinds described.
def Layout.report : Layout := ⟨some 2, false, true⟩

-- Two blanks a level, ASCII only.
def Layout.settings : Layout := ⟨some 2, true, false⟩

-- On one line without blanks, ASCII only, other kinds described.
def Layout.inline : Layout := ⟨none, true, true⟩

-- `\u` and four hexadecimal digits.
def unitForm (unit : Nat) : List Char :=
  '\\' :: 'u' :: hexDigits 4 unit

-- Code points above `U+FFFF` take a pair of surrogate units.
def codeForm (code : Nat) : List Char :=
  if code ≤ 0xFFFF then unitForm code
  else
    let high := code - 0x10000
    unitForm (0xD800 + high / 0x400) ++ unitForm (0xDC00 + high % 0x400)

def charForm (asciiOnly : Bool) (c : Char) : List Char :=
  if c = '"' then ['\\', '"']
  else if c = '\\' then ['\\', '\\']
  else if c = '\n' then ['\\', 'n']
  else if c = '\r' then ['\\', 'r']
  else if c = '\t' then ['\\', 't']
  else if c.toNat = 0x08 then ['\\', 'b']
  else if c.toNat = 0x0C then ['\\', 'f']
  else if c.toNat < 0x20 then unitForm c.toNat
  else if asciiOnly ∧ 0x7F ≤ c.toNat then codeForm c.toNat
  else [c]

def textForm (asciiOnly : Bool) (s : String) : List Char :=
  '"' :: (s.toList.flatMap (charForm asciiOnly) ++ ['"'])

def numberText : Binary64 → String
  | .nan => "NaN"
  | .infinite false => "Infinity"
  | .infinite true => "-Infinity"
  | x => x.text

def integerText (n : Int) : Except Defect String :=
  if (digits n.natAbs).length ≤ digitLimit then .ok (intText n) else .error .oversized

def keyText : Value → Except Defect String
  | .str s => .ok s
  | .int n => integerText n
  | .float x => .ok (numberText x)
  | .bool b => .ok (if b then "true" else "false")
  | .null => .ok "null"
  | _ => .error .unwritable

def lineBreak (layout : Layout) (level : Nat) : List Char :=
  match layout.indent with
  | none => []
  | some width => '\n' :: List.replicate (width * level) ' '

def colon (layout : Layout) : List Char :=
  if layout.indent.isNone then [':'] else [':', ' ']

def otherForm (layout : Layout) (v : Value) : Except Defect (List Char) :=
  if layout.describeOthers then .ok (textForm layout.asciiOnly v.display) else .error .unwritable

-- A container is broken over lines only when it holds something.
def enclosed (layout : Layout) (level : Nat) (opening closing : Char) (body : List Char) : List Char :=
  if body.isEmpty then [opening, closing]
  else opening :: (lineBreak layout (level + 1) ++ body ++ lineBreak layout level ++ [closing])

def joined (layout : Layout) (level : Nat) (item tail : List Char) : List Char :=
  if tail.isEmpty then item else item ++ ',' :: (lineBreak layout level ++ tail)

mutual

-- The form of a value, or what is wrong with the first part of it that has none.
def valueForm (layout : Layout) (level : Nat) : Value → Except Defect (List Char)
  | .null => .ok "null".toList
  | .bool b => .ok (if b then "true" else "false").toList
  | .int n => (integerText n).map String.toList
  | .float x => .ok (numberText x).toList
  | .str s => .ok (textForm layout.asciiOnly s)
  | .list items => (itemsForm layout (level + 1) items).map (enclosed layout level '[' ']')
  | .tuple items => (itemsForm layout (level + 1) items).map (enclosed layout level '[' ']')
  | .map entries =>
      (entriesForm layout (level + 1) entries).map (enclosed layout level '\x7b' '\x7d')
  | .date d => otherForm layout (.date d)
  | .dateTime t => otherForm layout (.dateTime t)
  | .bytes data => otherForm layout (.bytes data)
  | .set members => otherForm layout (.set members)

def itemsForm (layout : Layout) (level : Nat) : List Value → Except Defect (List Char)
  | [] => .ok []
  | x :: rest => do
      let head ← valueForm layout level x
      let tail ← itemsForm layout level rest
      return joined layout level head tail

def entriesForm (layout : Layout) (level : Nat) : List (Value × Value) → Except Defect (List Char)
  | [] => .ok []
  | (k, v) :: rest => do
      let name ← keyText k
      let value ← valueForm layout level v
      let tail ← entriesForm layout level rest
      return joined layout level (textForm layout.asciiOnly name ++ colon layout ++ value) tail

end

def render (layout : Layout) (v : Value) : Except Defect String :=
  (valueForm layout 0 v).map String.ofList

-- The text of a value, or `none` when it holds something that has no JSON form.
def write (layout : Layout) (v : Value) : Option String :=
  (render layout v).toOption

end ApiStubs.Json
