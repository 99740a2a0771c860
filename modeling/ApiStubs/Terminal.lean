import ApiStubs.Host
import ApiStubs.Journal
import ApiStubs.Json.Writer
import ApiStubs.Settings

/- Telling things to the one who runs the program. Data goes to the output in the format chosen; notices go
   beside it. A notice passes a renderer unless colours are off: control characters are dropped, tabs are
   filled up to the next eighth column, and square brackets are guarded against being taken for markup. -/

set_option autoImplicit false

namespace ApiStubs

-- The format is never the automatic one.
structure Terminal where
  format : OutputFormat
  bare : Bool
  quiet : Bool
  verbose : Bool
deriving DecidableEq

namespace Terminal

open Journal

-- Colours are off whenever `NO_COLOR` is there, and on a dumb terminal.
def isColourless (host : Host) : Bool :=
  (host.lookup "NO_COLOR").isSome || host.lookup "TERM" == some "dumb"

structure Options where
  format : OutputFormat := .auto
  noColour : Bool := false
  quiet : Bool := false
  verbose : Bool := false
deriving DecidableEq

-- A terminal with colours draws; anything else gets plain text, unless a format is asked for.
def settle (host : Host) (bare : Bool) : OutputFormat → OutputFormat
  | .auto => if host.interactive && !bare then .rich else .plain
  | format => format

def start (host : Host) (options : Options) : Terminal :=
  let bare := options.noColour || isColourless host
  ⟨settle host bare options.format, bare, options.quiet, options.verbose⟩

-- Records are shown from this weight on.
def threshold (t : Terminal) : Nat :=
  if t.verbose then Log.Level.debug.weight
  else if t.quiet then Log.Level.error.weight
  else Log.Level.warning.weight

def isDropped (c : Char) : Bool :=
  [7, 8, 11, 12, 13].contains c.toNat

-- Fills every tab with blanks up to the next multiple of eight; a line break begins a new line.
def fillTabs : Nat → List Char → List Char
  | _, [] => []
  | column, c :: rest =>
      if c = '\t' then
        let width := 8 - column % 8
        List.replicate width ' ' ++ fillTabs (column + width) rest
      else if c = '\n' then c :: fillTabs 0 rest
      else c :: fillTabs (column + 1) rest

def rendered (cs : List Char) : List Char :=
  fillTabs 0 (cs.filter fun c => !isDropped c)

-- Whether a bracket opens what would be a tag: a name begins, and the tag is closed before another bracket
-- opens.
def opensTag : List Char → Bool
  | c :: rest =>
      (('a' ≤ c && c ≤ 'z') || c == '#' || c == '/' || c == '@') &&
        (rest.dropWhile fun d => d != '[' && d != ']').head? == some ']'
  | [] => false

-- A backslash is lost before a bracket that opens no tag.
def loseBackslashes : List Char → List Char
  | '\\' :: '[' :: rest =>
      if opensTag rest then '\\' :: '[' :: loseBackslashes rest else '[' :: loseBackslashes rest
  | c :: rest => c :: loseBackslashes rest
  | [] => []

def closeBackslash (cs : List Char) : List Char :=
  match cs.reverse with
  | '\\' :: '\\' :: _ => cs
  | '\\' :: _ => cs ++ ['\\']
  | _ => cs

def guarded (cs : List Char) : List Char :=
  loseBackslashes (closeBackslash cs)

def notice (t : Terminal) (message : String) : List Entry :=
  [.notice ((if t.bare then message else String.ofList (rendered message.toList)) ++ "\n")]

def marked (t : Terminal) (mark message : String) : List Entry :=
  let body := if t.bare then message.toList else guarded message.toList
  t.notice (mark ++ " " ++ String.ofList body)

def info (t : Terminal) (message : String) : List Entry :=
  if t.quiet then [] else t.notice message

def success (t : Terminal) (message : String) : List Entry :=
  t.info message

def warning (t : Terminal) (message : String) : List Entry :=
  t.marked "Warning:" message

def error (t : Terminal) (message : String) : List Entry :=
  t.marked "Error:" message

def debug (t : Terminal) (message : String) : List Entry :=
  if t.verbose then t.notice ("[debug] " ++ message) else []

def data (text : String) : List Entry :=
  [.data (text ++ "\n")]

def plainLines : Value → List String
  | .map entries => entries.map fun e => e.1.display ++ "\t" ++ e.2.display
  | .list items => items.map fun
      | .map entries => String.intercalate "\t" (entries.map fun e => e.2.display)
      | v => v.display
  | v => [v.display]

-- A value in the format of the terminal; `none` when it has no text in it.
def value (t : Terminal) (v : Value) : Option (List Entry) :=
  match t.format with
  | .plain => some ((plainLines v).flatMap data)
  | .json => (Json.write .report v).map data
  | _ => (Json.write .report v).map fun _ => [.drawing (.value v)]

def recordOf (headers row : List String) : Value :=
  .map ((headers.zip row).foldl (fun entries cell => Entries.put entries (.str cell.1) (.str cell.2)) [])

def table (t : Terminal) (headers : List String) (rows : List (List String)) (title : Option String) :
    List Entry :=
  match t.format with
  | .plain => (headers :: rows).flatMap fun row => data (String.intercalate "\t" row)
  | .json => data ((Json.write .document (.list (rows.map (recordOf headers)))).getD "")
  | _ => [.drawing (.table headers rows title)]

end Terminal

end ApiStubs
