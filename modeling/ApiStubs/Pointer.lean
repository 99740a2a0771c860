import ApiStubs.Error
import ApiStubs.Value.Entries
import ApiStubs.Decimal.Literal
import ApiStubs.Text.Character
import ApiStubs.Text.Split

/- Pointers into a document and references. A pointer begins with `#` and names a node by the keys and
   list places on the way to it, `~1` standing for a slash and `~0` for a tilde; list places may count
   from the end. A reference is a mapping with a pointer under `$ref`; references are followed one hop
   at a time, and the number of hops is bounded. -/

set_option autoImplicit false

namespace ApiStubs

open ApiStubs.Decimal ApiStubs.Text

namespace Pointer

def escapeChar : Char → List Char
  | '~' => ['~', '0']
  | '/' => ['~', '1']
  | c => [c]

def escape (segment : List Char) : List Char :=
  segment.flatMap escapeChar

-- Every `~1` becomes a slash, then every `~0` a tilde.
def unescapeSlashes : List Char → List Char
  | '~' :: '1' :: rest => '/' :: unescapeSlashes rest
  | c :: rest => c :: unescapeSlashes rest
  | [] => []

def unescapeTildes : List Char → List Char
  | '~' :: '0' :: rest => '~' :: unescapeTildes rest
  | c :: rest => c :: unescapeTildes rest
  | [] => []

def unescape (segment : List Char) : List Char :=
  unescapeTildes (unescapeSlashes segment)

-- The segments of a pointer after its `#`.
def segments (path : List Char) : List String :=
  match path.dropWhile (· == '/') with
  | [] => []
  | cs => (splitOn '/' cs).map fun part => String.ofList (unescape part)

-- The item at a place that may count from the end.
def itemAt? (items : List Value) (place : Int) : Option Value :=
  if 0 ≤ place then items[place.toNat]?
  else if items.length < place.natAbs then none
  else items[items.length - place.natAbs]?

def step? (node : Value) (segment : String) : Option Value :=
  match node with
  | .map entries => Entries.get? entries segment
  | .list items =>
      match integer? segment with
      | some place => itemAt? items place
      | none => none
  | _ => none

-- The node that the segments lead to from `node`; `pointer` is named when one of them fails.
def walk (pointer : String) : Value → List String → Except Error Value
  | node, [] => .ok node
  | node, segment :: rest =>
      match step? node segment with
      | some inner => walk pointer inner rest
      | none => .error (.referenceNotFound pointer (some segment))

def lookup (document : Value) (pointer : Value) : Except Error Value :=
  match pointer with
  | .str s =>
      match s.toList with
      | '#' :: path => walk s document (segments path)
      | _ => .error (.referenceNotFound s none)
  | other => .error (.referenceNotFound other.display none)

def extendText (pointer : String) (segment : String) : String :=
  pointer ++ "/" ++ String.ofList (escape segment.toList)

def extendBy (pointer : String) (segments : List Value) : String :=
  segments.foldl (fun acc s => extendText acc s.display) pointer

end Pointer

namespace Value

def reference? : Value → Option Value
  | .map entries => Entries.get? entries "$ref"
  | _ => none

def isReference (v : Value) : Bool :=
  v.reference?.isSome

-- Follows a chain of references for at most `hops` hops; `bound` is named when they are used up.
def follow (document : Value) (bound : Int) : Nat → Value → Except Error Value
  | 0, pointer => .error (.referenceDepth pointer bound)
  | hops + 1, pointer =>
      match Pointer.lookup document pointer with
      | .error e => .error e
      | .ok target =>
          match target.reference? with
          | some next => follow document bound hops next
          | none => .ok target

-- The node at the end of the chain that starts with `pointer`, `depth` hops of `bound` being used.
def resolve (document : Value) (bound : Int) (depth : Int) (pointer : Value) : Except Error Value :=
  follow document bound (bound - depth).toNat pointer

def resolved (document : Value) (bound : Int) (node : Value) : Except Error Value :=
  match node.reference? with
  | some pointer => resolve document bound 0 pointer
  | none => .ok node

def targetLocation (node : Value) (location : String) : String :=
  match node.reference? with
  | some pointer => pointer.display
  | none => location

end Value

end ApiStubs
