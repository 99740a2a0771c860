import ApiStubs.Text.Hex
import ApiStubs.Text.Printable

/- Quoted literals: a text or a run of bytes between quotes, with everything that has no glyph
   written as an escape. Apostrophes are the quotes unless the text holds one and no double quote. -/

set_option autoImplicit false

namespace ApiStubs.Text

def quoteFor (cs : List Char) : Char :=
  if cs.contains '\'' && !cs.contains '"' then '"' else '\''

def byteEscape (n : Nat) : List Char :=
  '\\' :: 'x' :: hexDigits 2 n

def escapeFor (quote c : Char) : List Char :=
  if c = quote ∨ c = '\\' then ['\\', c]
  else if c = '\t' then ['\\', 't']
  else if c = '\n' then ['\\', 'n']
  else if c = '\r' then ['\\', 'r']
  else if isPrintable c then [c]
  else if c.toNat ≤ 0xFF then byteEscape c.toNat
  else if c.toNat ≤ 0xFFFF then '\\' :: 'u' :: hexDigits 4 c.toNat
  else '\\' :: 'U' :: hexDigits 8 c.toNat

def quoted (s : String) : String :=
  let cs := s.toList
  let quote := quoteFor cs
  String.ofList (quote :: (cs.flatMap (escapeFor quote) ++ [quote]))

-- A byte outside ASCII is always written by number.
def byteForm (quote : Char) (b : UInt8) : List Char :=
  if b.toNat < 0x80 then escapeFor quote (Char.ofNat b.toNat) else byteEscape b.toNat

def quotedBytes (bytes : ByteArray) : String :=
  let units := bytes.toList
  let quote := quoteFor (units.map fun b => if b.toNat < 0x80 then Char.ofNat b.toNat else 'x')
  String.ofList ('b' :: quote :: (units.flatMap (byteForm quote) ++ [quote]))

end ApiStubs.Text
