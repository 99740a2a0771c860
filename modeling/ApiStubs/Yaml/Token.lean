import ApiStubs.Yaml.Text

/- The tokens of a YAML text. Whether a scalar is a key shows only at the colon after it, so a mark is
   left wherever a key may begin; when the colon comes the mark is recorded, and in the end recorded
   marks become key tokens and all others vanish. Blocks open and close by indentation. -/

set_option autoImplicit false

namespace ApiStubs.Yaml

inductive Token where
  | versionDirective (major : Nat)
  | tagDirective (handle stem : String)
  | otherDirective
  | documentStart
  | documentEnd
  | blockSequence
  | blockMapping
  | blockEnd
  | flowSequence
  | flowSequenceEnd
  | flowMapping
  | flowMappingEnd
  | key
  | value
  | blockEntry
  | flowEntry
  | alias (name : String)
  | anchor (name : String)
  | tag (handle : Option String) (suffix : String)
  | scalar (text : String) (plain : Bool)
  | streamEnd
deriving DecidableEq, Repr

inductive Piece where
  | token (t : Token)
  | mark (number : Nat)

-- Where a key may have begun. A required one must turn out to be a key.
structure KeyStart where
  number : Nat
  required : Bool
  index : Nat
  line : Nat
  column : Nat

structure Lexer where
  place : Cursor
  flowDepth : Nat
  indent : Int
  outerIndents : List Int
  keyAllowed : Bool
  keyStarts : List (Nat × KeyStart)
  keys : List (Nat × Bool)
  marks : Nat
  -- The last piece first.
  pieces : List Piece

namespace Lexer

def start (text : List Char) : Lexer where
  place := ⟨text, 0, 0, 0⟩
  flowDepth := 0
  indent := -1
  outerIndents := []
  keyAllowed := true
  keyStarts := []
  keys := []
  marks := 0
  pieces := []

def inFlow (l : Lexer) : Bool := l.flowDepth != 0

def emit (l : Lexer) (t : Token) : Lexer :=
  { l with pieces := .token t :: l.pieces }

def moveTo (l : Lexer) (place : Cursor) : Lexer :=
  { l with place := place }

def allowKey (l : Lexer) (allowed : Bool) : Lexer :=
  { l with keyAllowed := allowed }

def keyStart? (l : Lexer) : Option KeyStart :=
  l.keyStarts.lookup l.flowDepth

def forgetKeyStart (l : Lexer) : Lexer :=
  { l with keyStarts := l.keyStarts.filter fun e => e.1 != l.flowDepth }

-- A key that was required cannot be given up.
def dropKeyStart (l : Lexer) : Result Lexer :=
  match l.keyStart? with
  | some k => if k.required then malformed else .ok l.forgetKeyStart
  | none => .ok l

def isStale (l : Lexer) (k : KeyStart) : Bool :=
  k.line != l.place.line || l.place.index - k.index > 1024

-- A key stays on one line and within 1024 characters.
def dropStaleKeys (l : Lexer) : Result Lexer :=
  if l.keyStarts.any fun e => l.isStale e.2 && e.2.required then malformed
  else .ok { l with keyStarts := l.keyStarts.filter fun e => !l.isStale e.2 }

def saveKeyStart (l : Lexer) : Result Lexer :=
  if l.keyAllowed then do
    let required := !l.inFlow && l.indent == l.place.column
    let l ← l.dropKeyStart
    let k : KeyStart := ⟨l.marks, required, l.place.index, l.place.line, l.place.column⟩
    return { l with
      keyStarts := (l.flowDepth, k) :: l.keyStarts
      marks := l.marks + 1
      pieces := .mark l.marks :: l.pieces }
  else .ok l

def closeBlocks (column : Int) : List Int → Int → Nat × List Int × Int
  | [], indent => (0, [], indent)
  | outer :: rest, indent =>
      if column < indent then
        let (count, rest, indent) := closeBlocks column rest outer
        (count + 1, rest, indent)
      else (0, outer :: rest, indent)

-- Ends every block that is indented further than `column`.
def unwind (l : Lexer) (column : Int) : Lexer :=
  if l.inFlow then l
  else
    let (count, outer, indent) := closeBlocks column l.outerIndents l.indent
    { l with
      indent := indent
      outerIndents := outer
      pieces := List.replicate count (.token .blockEnd) ++ l.pieces }

def opensBlock (l : Lexer) (column : Nat) : Bool :=
  l.indent < column

def openBlock (l : Lexer) (column : Nat) : Lexer :=
  { l with indent := column, outerIndents := l.indent :: l.outerIndents }

-- Passes blanks, comments and line breaks; in block context a new line may begin with a key.
def skipSpace : Nat → Lexer → Lexer
  | 0, l => l
  | limit + 1, l =>
      let c := l.place.skipBlanks.skipComment
      match c.lineBreak with
      | some (_, after) => skipSpace limit ((l.moveTo after).allowKey (l.keyAllowed || !l.inFlow))
      | none => l.moveTo c

def skipMark (l : Lexer) : Lexer :=
  if l.place.index == 0 && l.place.peek == '\uFEFF' then l.moveTo l.place.next else l

def readNat (c : Cursor) : Result (Nat × Cursor) :=
  let (ds, after) := c.span Char.isDigit
  if ds.isEmpty then malformed
  else .ok (ds.foldl (fun acc d => acc * 10 + (d.toNat - 0x30)) 0, after)

def directive (limit : Nat) (c : Cursor) : Result (Token × Cursor) := do
  let (name, c) := c.span isWordChar
  if name.isEmpty || !(c.peek == ' ' || isBreakOrEnd c.peek) then malformed
  else if String.ofList name == "YAML" then
    let (major, c) ← readNat c.skipBlanks
    if c.peek != '.' then malformed
    else
      let (_, c) ← readNat c.next
      if c.peek == ' ' || isBreakOrEnd c.peek then return (.versionDirective major, ← emptyLine c)
      else malformed
  else if String.ofList name == "TAG" then
    let (handle, c) ← tagHandle c.skipBlanks
    if c.peek != ' ' then malformed
    else
      let (stem, c) ← tagUri limit c.skipBlanks
      if c.peek == ' ' || isBreakOrEnd c.peek then return (.tagDirective handle stem, ← emptyLine c)
      else malformed
  else return (.otherDirective, ← emptyLine c.skipLine)

def documentMark (l : Lexer) (t : Token) : Result Lexer := do
  let l ← (l.unwind (-1)).dropKeyStart
  return ((l.allowKey false).emit t).moveTo (l.place.skip 3)

def openFlow (l : Lexer) (t : Token) : Result Lexer := do
  let l ← l.saveKeyStart
  return ({ l with flowDepth := l.flowDepth + 1, keyAllowed := true }.emit t).moveTo l.place.next

def closeFlow (l : Lexer) (t : Token) : Result Lexer := do
  let l ← l.dropKeyStart
  return ({ l with flowDepth := l.flowDepth - 1, keyAllowed := false }.emit t).moveTo l.place.next

def flowEntry (l : Lexer) : Result Lexer := do
  let l ← (l.allowKey true).dropKeyStart
  return (l.emit .flowEntry).moveTo l.place.next

def openBlockHere (l : Lexer) (t : Token) : Lexer :=
  if l.opensBlock l.place.column then (l.openBlock l.place.column).emit t else l

def blockEntry (l : Lexer) : Result Lexer :=
  if !l.inFlow && !l.keyAllowed then malformed
  else do
    let l := if l.inFlow then l else l.openBlockHere .blockSequence
    let l ← (l.allowKey true).dropKeyStart
    return (l.emit .blockEntry).moveTo l.place.next

def explicitKey (l : Lexer) : Result Lexer :=
  if !l.inFlow && !l.keyAllowed then malformed
  else do
    let l := if l.inFlow then l else l.openBlockHere .blockMapping
    let l ← (l.allowKey !l.inFlow).dropKeyStart
    return (l.emit .key).moveTo l.place.next

def valueMark (l : Lexer) : Result Lexer :=
  match l.keyStart? with
  | some k =>
      let l := l.forgetKeyStart
      let opens := !l.inFlow && l.opensBlock k.column
      let l := if opens then l.openBlock k.column else l
      .ok (({ l with keys := (k.number, opens) :: l.keys, keyAllowed := false }.emit .value).moveTo
        l.place.next)
  | none =>
      if !l.inFlow && !l.keyAllowed then malformed
      else do
        let l := if l.inFlow then l else l.openBlockHere .blockMapping
        let l ← (l.allowKey !l.inFlow).dropKeyStart
        return (l.emit .value).moveTo l.place.next

def keyLike (l : Lexer) (read : Lexer → Result (Token × Cursor)) : Result Lexer := do
  let l ← l.saveKeyStart
  let (t, place) ← read l
  return ((l.allowKey false).emit t).moveTo place

def plain (limit : Nat) (l : Lexer) : Result Lexer := do
  let l ← l.saveKeyStart
  let (text, broken, place) := plainParts l.inFlow (l.indent + 1) limit limit [] false l.place
  return ((l.allowKey broken).emit (.scalar (String.ofList text) true)).moveTo place

def block (isFolded : Bool) (limit : Nat) (l : Lexer) : Result Lexer := do
  let l ← (l.allowKey true).dropKeyStart
  let (text, place) ← blockScalar isFolded l.indent limit l.place
  return (l.emit (.scalar text false)).moveTo place

def indicators : List Char :=
  "-?:,[]#&*!|>'\"%@".toList ++ ['\x7b', '\x7d', Char.ofNat 0x60]

def beginsPlain (l : Lexer) : Bool :=
  let ch := l.place.peek
  (!isSpaceOrEnd ch && !indicators.contains ch) ||
    (!isSpaceOrEnd (l.place.peekAt 1) && (ch == '-' || (!l.inFlow && (ch == '?' || ch == ':'))))

-- Whether an indicator stands alone, as it must in block context.
def standsAlone (l : Lexer) : Bool :=
  isSpaceOrEnd (l.place.peekAt 1)

def token (limit : Nat) (l : Lexer) : Result Lexer :=
  let c := l.place
  let ch := c.peek
  let leads := c.column == 0
  if ch == '%' && leads then do
    let l ← (l.unwind (-1)).dropKeyStart
    let (t, place) ← directive limit c.next
    return ((l.allowKey false).emit t).moveTo place
  else if leads && c.atTriple '-' then l.documentMark .documentStart
  else if leads && c.atTriple '.' then l.documentMark .documentEnd
  else if ch == '[' then l.openFlow .flowSequence
  else if ch == '\x7b' then l.openFlow .flowMapping
  else if ch == ']' then l.closeFlow .flowSequenceEnd
  else if ch == '\x7d' then l.closeFlow .flowMappingEnd
  else if ch == ',' then l.flowEntry
  else if ch == '-' && l.standsAlone then l.blockEntry
  else if ch == '?' && (l.inFlow || l.standsAlone) then l.explicitKey
  else if ch == ':' && (l.inFlow || l.standsAlone) then l.valueMark
  else if ch == '*' then
    l.keyLike fun l => do
      let (name, place) ← anchorName l.place.next
      return (.alias name, place)
  else if ch == '&' then
    l.keyLike fun l => do
      let (name, place) ← anchorName l.place.next
      return (.anchor name, place)
  else if ch == '!' then
    l.keyLike fun l => do
      let (handle, suffix, place) ← tagText limit l.place
      return (.tag handle suffix, place)
  else if ch == '|' && !l.inFlow then l.block false limit
  else if ch == '>' && !l.inFlow then l.block true limit
  else if ch == '\'' || ch == '"' then
    l.keyLike fun l => do
      let (text, place) ← quotedScalar (ch == '"') limit l.place
      return (.scalar text false, place)
  else if l.beginsPlain then l.plain limit
  else malformed

def finishStream (l : Lexer) : Result Lexer := do
  let l ← (l.unwind (-1)).dropKeyStart
  return l.emit .streamEnd

-- Reads tokens up to the end of the text; each of them passes at least one character. A fault ends the
-- tokens where it is met.
def run (limit : Nat) : Nat → Lexer → Lexer × Option Fault
  | 0, l => (l, some .malformed)
  | steps + 1, l =>
      match (l.skipSpace limit).dropStaleKeys with
      | .error e => (l, some e)
      | .ok l =>
          let l := l.unwind l.place.column
          if l.place.peek == finish then
            match l.finishStream with
            | .error e => (l, some e)
            | .ok l => (l, none)
          else
            match l.token limit with
            | .error e => (l, some e)
            | .ok l => run limit steps l

def tokens (l : Lexer) : List Token :=
  l.pieces.reverse.flatMap fun p =>
    match p with
    | .token t => [t]
    | .mark number =>
        match l.keys.lookup number with
        | some true => [.blockMapping, .key]
        | some false => [.key]
        | none => []

end Lexer

def isAllowed (c : Char) : Bool :=
  let n := c.toNat
  n == 0x09 || n == 0x0A || n == 0x0D || (0x20 ≤ n && n ≤ 0x7E) || n == 0x85 ||
    (0xA0 ≤ n && n ≤ 0xD7FF) || (0xE000 ≤ n && n ≤ 0xFFFD) || (0x10000 ≤ n && n ≤ 0x10FFFF)

def Token.ofText (text : List Char) : List Token × Option Fault :=
  if text.all isAllowed then
    let limit := text.length + 2
    let (l, fault) := Lexer.run limit limit (Lexer.start text).skipMark
    (l.tokens, fault)
  else ([], some .malformed)

end ApiStubs.Yaml
