import ApiStubs.Yaml.Cursor
import ApiStubs.Text.Hex

/- The texts of scalars: quoted, plain and block ones, with their line folding, and the texts of
   anchors and tags. Every loop over lines takes a limit no smaller than the text's length. -/

set_option autoImplicit false

namespace ApiStubs.Yaml

open ApiStubs.Text

def quotedBreaks : Nat → Cursor → Result (List Char × Cursor)
  | 0, _ => malformed
  | limit + 1, c =>
      if c.atDocumentMark then malformed
      else
        let c := c.skipWhile fun ch => ch == ' ' || ch == '\t'
        match c.lineBreak with
        | none => .ok ([], c)
        | some (ch, after) => do
            let (more, c) ← quotedBreaks limit after
            return (ch :: more, c)

-- One break folds into a blank; of several the first is dropped, unless it is a separator.
def folded (ch : Char) (breaks : List Char) : List Char :=
  if ch != '\n' then ch :: breaks
  else if breaks.isEmpty then [' ']
  else breaks

def quotedSpaces (limit : Nat) (c : Cursor) : Result (List Char × Cursor) :=
  let (blanks, after) := c.span fun ch => ch == ' ' || ch == '\t'
  if after.peek == finish then malformed
  else
    match after.lineBreak with
    | none => .ok (blanks, after)
    | some (ch, c) => do
        let (breaks, c) ← quotedBreaks limit c
        return (folded ch breaks, c)

def namedEscape? (c : Char) : Option Nat :=
  match c with
  | '0' => some 0x00
  | 'a' => some 0x07
  | 'b' => some 0x08
  | 't' => some 0x09
  | '\t' => some 0x09
  | 'n' => some 0x0A
  | 'v' => some 0x0B
  | 'f' => some 0x0C
  | 'r' => some 0x0D
  | 'e' => some 0x1B
  | ' ' => some 0x20
  | '"' => some 0x22
  | '\\' => some 0x5C
  | '/' => some 0x2F
  | 'N' => some 0x85
  | '_' => some 0xA0
  | 'L' => some 0x2028
  | 'P' => some 0x2029
  | _ => none

def escapeWidth? (c : Char) : Option Nat :=
  match c with
  | 'x' => some 2
  | 'u' => some 4
  | 'U' => some 8
  | _ => none

-- The character of a code. A high unit takes the escaped low unit after it.
def unitEscape (code : Nat) (c : Cursor) : List Char × Cursor :=
  match isHighUnit code, c.rest with
  | true, '\\' :: 'u' :: digits =>
      match readHex (digits.take 4) 0 with
      | some low =>
          if digits.length ≥ 4 && isLowUnit low then ([charOfUnits code low], c.skip 6)
          else ([replacement], c)
      | none => ([replacement], c)
  | _, _ => ([charOfUnit code], c)

-- An escape, after its backslash; a line break there is swallowed with the breaks that follow.
def quotedEscape (limit : Nat) (c : Cursor) : Result (List Char × Cursor) :=
  match namedEscape? c.peek with
  | some code => .ok ([Char.ofNat code], c.next)
  | none =>
      match escapeWidth? c.peek with
      | some width =>
          let c := c.next
          let digits := c.rest.take width
          match digits.length == width, readHex digits 0 with
          | true, some code =>
              if code > 0x7FFFFFFF then .error .tooLarge
              else if code > 0x10FFFF then .error .badValue
              else .ok (unitEscape code (c.skip width))
          | _, _ => malformed
      | none =>
          match c.lineBreak with
          | some (_, after) => quotedBreaks limit after
          | none => malformed

def isQuotedStop (c : Char) : Bool :=
  isSpaceOrEnd c || c == '\'' || c == '"' || c == '\\'

-- The part of a quoted scalar up to a blank, a break or the closing quote.
def quotedPart (double : Bool) (limit : Nat) : Nat → Cursor → Result (List Char × Cursor)
  | 0, _ => malformed
  | steps + 1, c => do
      let (run, c) := c.span fun ch => !isQuotedStop ch
      let ch := c.peek
      if !double && ch == '\'' && c.peekAt 1 == '\'' then
        let (more, c) ← quotedPart double limit steps (c.skip 2)
        return (run ++ '\'' :: more, c)
      else if (double && ch == '\'') || (!double && (ch == '"' || ch == '\\')) then
        let (more, c) ← quotedPart double limit steps c.next
        return (run ++ ch :: more, c)
      else if double && ch == '\\' then
        let (form, c) ← quotedEscape limit c.next
        let (more, c) ← quotedPart double limit steps c
        return (run ++ form ++ more, c)
      else return (run, c)

def quotedRest (double : Bool) (limit : Nat) : Nat → Cursor → Result (List Char × Cursor)
  | 0, _ => malformed
  | steps + 1, c =>
      if c.peek == (if double then '"' else '\'') then .ok ([], c.next)
      else do
        let (blanks, c) ← quotedSpaces limit c
        let (part, c) ← quotedPart double limit limit c
        let (more, c) ← quotedRest double limit steps c
        return (blanks ++ part ++ more, c)

def quotedScalar (double : Bool) (limit : Nat) (c : Cursor) : Result (String × Cursor) := do
  let (part, c) ← quotedPart double limit limit c.next
  let (more, c) ← quotedRest double limit limit c
  return (String.ofList (part ++ more), c)

def plainStops (inFlow : Bool) : List Char → Bool
  | [] => true
  | ch :: rest =>
      isSpaceOrEnd ch ||
        (ch == ':' &&
          (let after := rest.headD finish
           isSpaceOrEnd after || (inFlow && [',', '[', ']', '\x7b', '\x7d'].contains after))) ||
        (inFlow && [',', '?', '[', ']', '\x7b', '\x7d'].contains ch)

def plainRun (inFlow : Bool) : List Char → List Char
  | [] => []
  | ch :: rest => if plainStops inFlow (ch :: rest) then [] else ch :: plainRun inFlow rest

-- Blank lines inside a plain scalar; `none` when a document mark ends it.
def plainBreaks : Nat → Cursor → Option (List Char) × Cursor
  | 0, c => (some [], c)
  | limit + 1, c =>
      if c.peek == ' ' then plainBreaks limit c.next
      else
        match c.lineBreak with
        | none => (some [], c)
        | some (ch, c) =>
            if c.atDocumentMark then (none, c)
            else
              let (more, c) := plainBreaks limit c
              (more.map (ch :: ·), c)

-- What separates two parts of a plain scalar, whether a line ended there, and the place after it. Nothing
-- separates them where the scalar has ended.
def plainSpaces (limit : Nat) (c : Cursor) : List Char × Bool × Cursor :=
  let (blanks, c) := c.span (· == ' ')
  match c.lineBreak with
  | none => (blanks, false, c)
  | some (ch, c) =>
      if c.atDocumentMark then ([], true, c)
      else
        match plainBreaks limit c with
        | (some breaks, c) => (folded ch breaks, true, c)
        | (none, c) => ([], true, c)

-- The parts of a plain scalar after the separator `spaces`, and whether the last thing passed was a line
-- break.
def plainParts (inFlow : Bool) (indent : Int) (limit : Nat) :
    Nat → List Char → Bool → Cursor → List Char × Bool × Cursor
  | 0, _, broken, c => ([], broken, c)
  | steps + 1, spaces, broken, c =>
      if c.peek == '#' then ([], broken, c)
      else
        let run := plainRun inFlow c.rest
        if run.isEmpty then ([], broken, c)
        else
          let (gap, broken, after) := plainSpaces limit (c.skip run.length)
          if gap.isEmpty || after.peek == '#' || (!inFlow && after.column < indent) then
            (spaces ++ run, broken, after)
          else
            let (more, broken, after) := plainParts inFlow indent limit steps gap broken after
            (spaces ++ run ++ more, broken, after)

-- Whether trailing line breaks of a block scalar are all dropped, one is kept, or all are kept.
inductive Chomping where
  | strip
  | clip
  | keep
deriving DecidableEq

def chompingMark? (c : Char) : Option Chomping :=
  if c == '+' then some .keep else if c == '-' then some .strip else none

def indentMark? (c : Char) : Result (Option Nat) :=
  if c == '0' then malformed
  else if c.isDigit then .ok (some (c.toNat - 0x30))
  else .ok none

-- The marks after the sign of a block scalar, in either order.
def blockMarks (c : Cursor) : Result (Chomping × Option Nat × Cursor) := do
  let (chomping, indent, c) ← show Result (Chomping × Option Nat × Cursor) from
    match chompingMark? c.peek with
    | some chomping => do
        match ← indentMark? c.next.peek with
        | some n => return (chomping, some n, c.skip 2)
        | none => return (chomping, none, c.next)
    | none => do
        match ← indentMark? c.peek with
        | none => return (.clip, none, c)
        | some n =>
            match chompingMark? c.next.peek with
            | some chomping => return (chomping, some n, c.skip 2)
            | none => return (.clip, some n, c.next)
  if c.peek == ' ' || isBreakOrEnd c.peek then return (chomping, indent, c) else malformed

-- The rest of a line that may hold only blanks and a comment.
def emptyLine (c : Cursor) : Result Cursor :=
  let c := c.skipBlanks.skipComment
  if isBreakOrEnd c.peek then .ok c.skipBreak else malformed

def blockIndent : Nat → Nat → Cursor → List Char × Nat × Cursor
  | 0, widest, c => ([], widest, c)
  | limit + 1, widest, c =>
      if c.peek == ' ' then blockIndent limit (max widest c.next.column) c.next
      else
        match c.lineBreak with
        | none => ([], widest, c)
        | some (ch, c) =>
            let (breaks, widest, c) := blockIndent limit widest c
            (ch :: breaks, widest, c)

def skipIndent (indent : Nat) : Nat → Cursor → Cursor
  | 0, c => c
  | limit + 1, c => if c.column < indent && c.peek == ' ' then skipIndent indent limit c.next else c

def blockBreaks (indent : Nat) : Nat → Cursor → List Char × Cursor
  | 0, c => ([], c)
  | limit + 1, c =>
      let c := skipIndent indent indent c
      match c.lineBreak with
      | none => ([], c)
      | some (ch, c) =>
          let (more, c) := blockBreaks indent limit c
          (ch :: more, c)

def chomped (chomping : Chomping) (lineBreak breaks : List Char) : List Char :=
  match chomping with
  | .strip => []
  | .clip => lineBreak
  | .keep => lineBreak ++ breaks

-- The lines of a block scalar. `breaks` are the blank lines before the present one.
def blockLines (isFolded : Bool) (chomping : Chomping) (indent limit : Nat) :
    Nat → List Char → Cursor → List Char × Cursor
  | 0, _, c => ([], c)
  | steps + 1, breaks, c =>
      if c.column != indent || c.peek == finish then (chomped chomping [] breaks, c)
      else
        let text := c.peek != ' ' && c.peek != '\t'
        let (line, c) := c.span fun ch => !isBreakOrEnd ch
        let (lineBreak, c) :=
          match c.lineBreak with
          | some (ch, c) => ([ch], c)
          | none => ([], c)
        let (following, c) := blockBreaks indent limit c
        if c.column == indent && c.peek != finish then
          let joint :=
            if isFolded && lineBreak == ['\n'] && text && c.peek != ' ' && c.peek != '\t' then
              (if following.isEmpty then [' '] else [])
            else lineBreak
          let (more, c) := blockLines isFolded chomping indent limit steps following c
          (breaks ++ line ++ joint ++ more, c)
        else (breaks ++ line ++ chomped chomping lineBreak following, c)

-- A block scalar, at its sign; `outer` is the indentation of the block that holds it.
def blockScalar (isFolded : Bool) (outer : Int) (limit : Nat) (c : Cursor) : Result (String × Cursor) := do
  let (chomping, mark, c) ← blockMarks c.next
  let c ← emptyLine c
  let least := max 1 (outer + 1).toNat
  let (breaks, indent, c) :=
    match mark with
    | none =>
        let (breaks, widest, c) := blockIndent limit 0 c
        (breaks, max least widest, c)
    | some n =>
        let indent := least + n - 1
        let (breaks, c) := blockBreaks indent limit c
        (breaks, indent, c)
  let (text, c) := blockLines isFolded chomping indent limit limit breaks c
  return (String.ofList text, c)

def anchorName (c : Cursor) : Result (String × Cursor) :=
  let (name, c) := c.span isWordChar
  if name.isEmpty then malformed
  else if isSpaceOrEnd c.peek ||
      ['?', ':', ',', ']', '\x7d', '%', '@', Char.ofNat 0x60].contains c.peek then
    .ok (String.ofList name, c)
  else malformed

-- A tag handle: `!`, `!!` or `!name!`.
def tagHandle (c : Cursor) : Result (String × Cursor) :=
  if c.peek != '!' then malformed
  else if c.peekAt 1 == ' ' then .ok ("!", c.next)
  else
    let (name, after) := c.next.span isWordChar
    if after.peek == '!' then .ok (String.ofList ('!' :: (name ++ ['!'])), after.next) else malformed

def isUriChar (c : Char) : Bool :=
  c.isAlphanum || "-;/?:@&=+$,_.!~*'()[]".toList.contains c

-- A run of bytes written as `%` and two hexadecimal digits each.
def uriBytes : Nat → Cursor → Result (List UInt8 × Cursor)
  | 0, c => .ok ([], c)
  | limit + 1, c =>
      if c.peek == '%' then
        match hexDigit? (c.peekAt 1), hexDigit? (c.peekAt 2) with
        | some high, some low => do
            let (more, c) ← uriBytes limit (c.skip 3)
            return (UInt8.ofNat (high * 16 + low) :: more, c)
        | _, _ => malformed
      else .ok ([], c)

def uriParts (limit : Nat) : Nat → Cursor → Result (List Char × Cursor)
  | 0, c => .ok ([], c)
  | steps + 1, c =>
      let (run, c) := c.span isUriChar
      if c.peek == '%' then do
        let (bytes, c) ← uriBytes limit c
        match String.fromUTF8? ⟨bytes.toArray⟩ with
        | none => malformed
        | some s =>
            let (more, c) ← uriParts limit steps c
            return (run ++ s.toList ++ more, c)
      else .ok (run, c)

def tagUri (limit : Nat) (c : Cursor) : Result (String × Cursor) := do
  let (text, after) ← uriParts limit limit c
  if after.index == c.index then malformed else return (String.ofList text, after)

def tagText (limit : Nat) (c : Cursor) : Result (Option String × String × Cursor) := do
  let (handle, suffix, c) ← show Result (Option String × String × Cursor) from
    if c.peekAt 1 == '<' then do
      let (suffix, c) ← tagUri limit (c.skip 2)
      if c.peek == '>' then return (none, suffix, c.next) else malformed
    else if isSpaceOrEnd (c.peekAt 1) then return (none, "!", c.next)
    else do
      let word := c.next.rest.takeWhile fun ch => !(isBreakOrEnd ch || ch == ' ')
      if word.contains '!' then
        let (handle, c) ← tagHandle c
        let (suffix, c) ← tagUri limit c
        return (some handle, suffix, c)
      else
        let (suffix, c) ← tagUri limit c.next
        return (some "!", suffix, c)
  if c.peek == ' ' || isBreakOrEnd c.peek then return (handle, suffix, c) else malformed

end ApiStubs.Yaml
