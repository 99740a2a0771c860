import ApiStubs.Url
import ApiStubs.Text.Character
import ApiStubs.Text.Split

/- Paths of files. Repeated slashes and single points in a path mean nothing and are dropped; double
   points are kept. -/

set_option autoImplicit false

namespace ApiStubs

open ApiStubs.Text

-- `root` is the run of slashes a path begins with: none, one, or two kept apart.
structure Path where
  root : String
  parts : List String
deriving DecidableEq, Repr, Inhabited

namespace Path

def rootOf : List Char → String
  | '/' :: '/' :: '/' :: _ => "/"
  | '/' :: '/' :: _ => "//"
  | '/' :: _ => "/"
  | _ => ""

def isPart (cs : List Char) : Bool :=
  !cs.isEmpty && cs != ['.']

def ofText (s : String) : Path :=
  ⟨rootOf s.toList, ((splitOn '/' s.toList).filter isPart).map String.ofList⟩

def text (p : Path) : String :=
  let body := p.root ++ String.intercalate "/" p.parts
  if body = "" then "." else body

def isAbsolute (p : Path) : Bool :=
  p.root != ""

def parent (p : Path) : Path :=
  { p with parts := p.parts.dropLast }

def name (p : Path) : String :=
  p.parts.getLastD ""

-- The path that `other` names from `p` on.
def join (p other : Path) : Path :=
  if other.isAbsolute then other else { p with parts := p.parts ++ other.parts }

def child (p : Path) (name : String) : Path :=
  p.join (ofText name)

-- A name before and from its last point; a point at either end divides nothing.
def splitName (cs : List Char) : List Char × List Char :=
  let tail := cs.reverse.takeWhile (· != '.')
  let head := cs.take (cs.length - tail.length - 1)
  if tail.isEmpty || head.isEmpty || tail.length == cs.length then (cs, [])
  else (head, '.' :: tail.reverse)

def stem (p : Path) : String :=
  String.ofList (splitName p.name.toList).1

def suffix (p : Path) : String :=
  String.ofList (splitName p.name.toList).2

end Path

namespace SpecName

def isUrl (source : String) : Bool :=
  "http://".toList.isPrefixOf source.toList || "https://".toList.isPrefixOf source.toList

def orDefault (name : String) : String :=
  if name = "" then "spec" else name

-- The last segment of a path without its trailing slashes.
def lastSegment (path : List Char) : List Char :=
  ((path.reverse.dropWhile (· == '/')).takeWhile (· != '/')).reverse

-- The name of a description, after where it comes from; `none` for a URL that is refused.
def ofSource? (source : String) : Option String :=
  if source = "-" then some "stdin"
  else if isUrl source then
    (Url.path? source).map fun path =>
      orDefault (Path.ofText (String.ofList (lastSegment path.toList))).stem
  else some (orDefault (Path.ofText source).stem)

end SpecName

def stubFileName (specName : String) : String :=
  "WireMockStub-" ++ specName ++ ".json"

end ApiStubs
