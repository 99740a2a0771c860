import ApiStubs.Description
import ApiStubs.Host
import ApiStubs.Store.Basic
import ApiStubs.Text.Case

/- Where descriptions come from: the input, a page of the web, or a file. The name of a file and the type of
   a page tell the form of the text; for the input it is unknown. -/

set_option autoImplicit false

namespace ApiStubs.Source

open ApiStubs.Text

def suffixes : List String := [".json", ".yaml", ".yml"]

def suffixOf (p : Path) : String :=
  lower p.suffix

def isDescription (p : Path) : Bool :=
  suffixes.contains (suffixOf p)

def formOfType (contentType : String) : Description.Form :=
  if mentions "json".toList contentType.toList then .json
  else if mentions "yaml".toList contentType.toList || mentions "yml".toList contentType.toList then .yaml
  else .unknown

def plainLines : List Char → List Char
  | '\r' :: '\n' :: rest => '\n' :: plainLines rest
  | '\r' :: rest => '\n' :: plainLines rest
  | c :: rest => c :: plainLines rest
  | [] => []

-- The text of a file's content; `none` when it is not encoded as text is.
def textOf? (content : ByteArray) : Option String :=
  (String.fromUTF8? content).map fun s => String.ofList (plainLines s.toList)

def readInput : Input → Except Error String
  | .interrupted => .error .interrupted
  | .broken reason => .error (.unreadInput reason)
  | .text content => if isBlankText content then .error .noInput else .ok content

def readPage (url : String) : Reply → Except Error (String × Description.Form)
  | .unreachable reason => .error (.unreachable url reason)
  | .page status contentType content =>
      if 200 ≤ status ∧ status ≤ 299 then .ok (content, formOfType contentType)
      else .error (.httpStatus status url)

def readContent (store : Store) (directory : Place) (p : Path) : Except Error String :=
  match store.read directory p with
  | .error fault => .error (.unreadableSpec p.text (.file fault))
  | .ok content =>
      match textOf? content with
      | some s => .ok s
      | none => .error (.unreadableSpec p.text .encoding)

def readFile (store : Store) (directory : Place) (p : Path) : Except Error (String × Description.Form) := do
  match store.isFile directory p with
  | .error fault => throw (.file fault)
  | .ok false => throw (.noSuchSpec p.text)
  | .ok true =>
      if isDescription p then
        let content ← readContent store directory p
        return (content, if suffixOf p = ".json" then .json else .yaml)
      else throw (.unsupportedFormat (if suffixOf p = "" then p.name else suffixOf p))

def read (host : Host) (store : Store) (source : String) : Except Error (String × Description.Form) := do
  if source = "-" then return (← readInput host.input, .unknown)
  else if SpecName.isUrl source then readPage source (host.web source)
  else readFile store host.place (Path.ofText source)

def load (host : Host) (store : Store) (source : String) : Except Error Entries := do
  let (content, form) ← read host store source
  if isBlankText content then throw (.emptySource source)
  Description.parse form content

end ApiStubs.Source
