import ApiStubs.Yaml.Node
import ApiStubs.Yaml.Scalar
import ApiStubs.Value.Entries

/- The value of a YAML document. Collections are filled level by level, so of several faults the one
   nearest to the root counts; a merge key puts the entries of other mappings before those of its
   own. -/

set_option autoImplicit false

namespace ApiStubs.Yaml

-- The text of a node read as a scalar: a mapping lends the text under its value key.
def textOf : Node → Result String
  | .scalar _ text => .ok text
  | .mapping _ entries => textOfEntries entries
  | .sequence _ _ => malformed
where
  textOfEntries : List (Node × Node) → Result String
    | [] => malformed
    | (.scalar .value _, value) :: _ => textOf value
    | (.sequence .value _, value) :: _ => textOf value
    | (.mapping .value _, value) :: _ => textOf value
    | _ :: rest => textOfEntries rest

def tagOf : Node → Tag
  | .scalar tag _ => tag
  | .sequence tag _ => tag
  | .mapping tag _ => tag

-- In a mapping a value key is an ordinary text.
def plainKey : Node → Node
  | .scalar .value text => .scalar .str text
  | .sequence .value items => .sequence .str items
  | .mapping .value entries => .mapping .str entries
  | node => node

mutual

-- The entries of a mapping node, those it merges first; of merged mappings in a list the later ones come
-- first.
def flatten : Node → Result (List (Node × Node))
  | .mapping _ entries => do
      let (merged, own) ← flattenEntries entries
      return merged ++ own
  | _ => malformed

def flattenEntries : List (Node × Node) → Result (List (Node × Node) × List (Node × Node))
  | [] => .ok ([], [])
  | (key, value) :: rest =>
      if tagOf key == .merge then do
        let entries ← merges value
        let (merged, own) ← flattenEntries rest
        return (entries ++ merged, own)
      else do
        let (merged, own) ← flattenEntries rest
        return (merged, (plainKey key, value) :: own)

def merges : Node → Result (List (Node × Node))
  | .mapping tag entries => flatten (.mapping tag entries)
  | .sequence _ items => flattenItems items
  | .scalar _ _ => malformed

def flattenItems : List Node → Result (List (Node × Node))
  | [] => .ok []
  | item :: rest => do
      let entries ← flatten item
      let later ← flattenItems rest
      return later ++ entries

end

def isCollection (node : Node) : Bool :=
  [Tag.seq, .map, .set, .omap, .pairs].contains (tagOf node)

def scalarValue (node : Node) : Result Value :=
  match tagOf node with
  | .null => do
      let _ ← textOf node
      return .null
  | .bool => do boolOf (← textOf node)
  | .int => do intOf (← textOf node)
  | .float => do floatOf (← textOf node)
  | .str => do return .str (← textOf node)
  | .binary => do binaryOf (← textOf node)
  | .timestamp => do
      let text ← textOf node
      match node with
      | .scalar _ _ => timestampOf text
      | _ => .error .notText
  | _ => malformed

def pairOf : Node → Result (Node × Node)
  | .mapping _ [entry] => .ok entry
  | _ => malformed

def partsOf (node : Node) : Result (List (Bool × Node)) :=
  match tagOf node, node with
  | .seq, .sequence _ items => .ok (items.map fun item => (false, item))
  | .map, .mapping _ _ | .set, .mapping _ _ => do
      let entries ← flatten node
      return entries.flatMap fun e => [(true, e.1), (false, e.2)]
  | _, _ => malformed

-- Begins a part: a scalar is read at once, a collection is kept for the next level.
def beginPart (part : Bool × Node) : Result (List Node) :=
  if isCollection part.2 then
    if part.1 then malformed else .ok [part.2]
  else do
    let _ ← scalarValue part.2
    return []

def beginParts : List (Bool × Node) → Result (List Node)
  | [] => .ok []
  | part :: rest => do
      let kept ← beginPart part
      let more ← beginParts rest
      return kept ++ more

def beginPairs : List Node → Result (List Node)
  | [] => .ok []
  | item :: rest => do
      let (key, value) ← pairOf item
      let kept ← beginParts [(false, key), (false, value)]
      let more ← beginPairs rest
      return kept ++ more

def beginCollection (node : Node) : Result (List Node) :=
  match tagOf node, node with
  | .omap, .sequence _ items | .pairs, .sequence _ items => beginPairs items
  | .omap, _ | .pairs, _ => malformed
  | _, _ => do beginParts (← partsOf node)

def beginLevel : List Node → Result (List Node)
  | [] => .ok []
  | node :: rest => do
      let inner ← beginCollection node
      let more ← beginLevel rest
      return inner ++ more

def checkLevels : Nat → List Node → Result Unit
  | 0, _ => .ok ()
  | limit + 1, nodes =>
      if nodes.isEmpty then .ok ()
      else do checkLevels limit (← beginLevel nodes)

def setOf (entries : Entries) : Value :=
  .set entries.names

-- The value of a node, at most `limit` levels deep.
def valueOf : Nat → Node → Result Value
  | 0, _ => malformed
  | limit + 1, node =>
      match tagOf node, node with
      | .seq, .sequence _ items => do return .list (← items.mapM (valueOf limit))
      | .map, .mapping _ _ => do return .map (← entriesOf limit (← flatten node))
      | .set, .mapping _ _ => do return setOf (← entriesOf limit (← flatten node))
      | .omap, .sequence _ items | .pairs, .sequence _ items => do
          return .list (← items.mapM (pairValue limit))
      | .seq, _ | .map, _ | .set, _ | .omap, _ | .pairs, _ => malformed
      | _, _ => scalarValue node
where
  entriesOf (limit : Nat) (entries : List (Node × Node)) : Result Entries :=
    entries.foldlM (fun acc e => do
      let key ← valueOf limit e.1
      let value ← valueOf limit e.2
      if key.isKey then return acc.put key value else malformed) []
  pairValue (limit : Nat) (item : Node) : Result Value := do
    let (key, value) ← pairOf item
    return .tuple [← valueOf limit key, ← valueOf limit value]

-- The value that a text is the YAML form of; an empty text is null.
def read (s : String) : Result Value := do
  match ← Node.ofText s.toList with
  | none => return .null
  | some node =>
      let limit := s.toList.length + 2
      if isCollection node then checkLevels limit [node]
      valueOf limit node

end ApiStubs.Yaml
