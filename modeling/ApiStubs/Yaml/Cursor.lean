/- A place in a YAML text: what is left, how many characters were passed, and the line and column.
   The NUL character stands for the end, since no text may hold it. -/

set_option autoImplicit false

namespace ApiStubs.Yaml

-- Why a text gives no value. `malformed` covers the syntax, aliases, tags without a reading and keys that
-- cannot be keys; the others are scalars whose tag promises what their text does not keep.
inductive Fault where
  | malformed
  | badValue
  | unknownName
  | emptyText
  | notTimestamp
  | tooLarge
  | notText
deriving DecidableEq, Repr

abbrev Result (α : Type) := Except Fault α

def malformed {α : Type} : Result α := .error .malformed

structure Cursor where
  rest : List Char
  index : Nat
  line : Nat
  column : Nat

def finish : Char := Char.ofNat 0

def isBreak (c : Char) : Bool :=
  c == '\r' || c == '\n' || c == '\u0085' || c == '\u2028' || c == '\u2029'

def isBreakOrEnd (c : Char) : Bool :=
  isBreak c || c == finish

def isSpaceOrEnd (c : Char) : Bool :=
  isBreakOrEnd c || c == ' ' || c == '\t'

def isWordChar (c : Char) : Bool :=
  c.isAlphanum || c == '-' || c == '_'

namespace Cursor

def peek (c : Cursor) : Char :=
  c.rest.headD finish

def peekAt (c : Cursor) (k : Nat) : Char :=
  (c.rest.drop k).headD finish

-- A carriage return before a line feed ends no line of its own; a byte order mark has no width.
def next (c : Cursor) : Cursor :=
  match c.rest with
  | [] => c
  | ch :: rest =>
      if isBreak ch && !(ch == '\r' && rest.headD finish == '\n') then
        ⟨rest, c.index + 1, c.line + 1, 0⟩
      else if ch == '\uFEFF' then ⟨rest, c.index + 1, c.line, c.column⟩
      else ⟨rest, c.index + 1, c.line, c.column + 1⟩

def skip (c : Cursor) : Nat → Cursor
  | 0 => c
  | n + 1 => c.next.skip n

-- The characters from here on that satisfy `p`, and the place after them.
def span (c : Cursor) (p : Char → Bool) : List Char × Cursor :=
  let run := c.rest.takeWhile p
  (run, c.skip run.length)

def skipWhile (c : Cursor) (p : Char → Bool) : Cursor :=
  (c.span p).2

def skipBlanks (c : Cursor) : Cursor :=
  c.skipWhile (· == ' ')

def skipLine (c : Cursor) : Cursor :=
  c.skipWhile fun ch => !isBreakOrEnd ch

def skipComment (c : Cursor) : Cursor :=
  if c.peek == '#' then c.skipLine else c

-- The line break here as it is kept, if there is one: the separators keep their form and all others become
-- line feeds.
def lineBreak (c : Cursor) : Option (Char × Cursor) :=
  let ch := c.peek
  if ch == '\r' && c.peekAt 1 == '\n' then some ('\n', c.skip 2)
  else if ch == '\u2028' || ch == '\u2029' then some (ch, c.next)
  else if isBreak ch then some ('\n', c.next)
  else none

def skipBreak (c : Cursor) : Cursor :=
  match c.lineBreak with
  | some (_, after) => after
  | none => c

def atTriple (c : Cursor) (mark : Char) : Bool :=
  c.peek == mark && c.peekAt 1 == mark && c.peekAt 2 == mark && isSpaceOrEnd (c.peekAt 3)

def atDocumentMark (c : Cursor) : Bool :=
  c.atTriple '-' || c.atTriple '.'

end Cursor

end ApiStubs.Yaml
