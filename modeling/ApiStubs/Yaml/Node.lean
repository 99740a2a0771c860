import ApiStubs.Yaml.Tag
import ApiStubs.Yaml.Token

/- The nodes of a YAML document. Tokens are read by descent; an alias stands for the node of its
   anchor, and an anchor may be set once. A node has an end, so that an alias inside the node of its own anchor is
   malformed here. A stream holds at most one document. -/

set_option autoImplicit false

namespace ApiStubs.Yaml

inductive Node where
  | scalar (tag : Tag) (text : String)
  | sequence (tag : Tag) (items : List Node)
  | mapping (tag : Tag) (entries : List (Node × Node))

-- What is left to read and the anchors met; an anchor without node is still being read.
structure Reader where
  tokens : List Token
  anchors : List (String × Option Node)

-- What holds for a whole document: the handles of its tags and the fault behind its last token.
structure Scope where
  handles : List (String × String)
  fault : Fault

namespace Reader

def drop (r : Reader) : Reader :=
  { r with tokens := r.tokens.drop 1 }

def setAnchor (r : Reader) (name : Option String) (node : Option Node) : Reader :=
  match name with
  | some name => { r with anchors := (name, node) :: r.anchors }
  | none => r

end Reader

def peek (scope : Scope) (r : Reader) : Result Token :=
  match r.tokens with
  | t :: _ => .ok t
  | [] => .error scope.fault

def emptyNode : Node := .scalar .null ""

-- The anchor and tag before a node, in either order.
def properties (scope : Scope) (r : Reader) :
    Result ((Option String × Option (Option String × String)) × Reader) := do
  match ← peek scope r with
  | .anchor name =>
      match ← peek scope r.drop with
      | .tag handle suffix => return ((some name, some (handle, suffix)), r.drop.drop)
      | _ => return ((some name, none), r.drop)
  | .tag handle suffix =>
      match ← peek scope r.drop with
      | .anchor name => return ((some name, some (handle, suffix)), r.drop.drop)
      | _ => return ((none, some (handle, suffix)), r.drop)
  | _ => return ((none, none), r)

def fullTag (scope : Scope) (tag : Option (Option String × String)) : Result (Option String) :=
  match tag with
  | none => .ok none
  | some (none, suffix) => .ok (some suffix)
  | some (some handle, suffix) =>
      match scope.handles.lookup handle with
      | some stem => .ok (some (stem ++ suffix))
      | none => malformed

-- The lone `!` leaves the choice open as if no tag stood there.
def isOpen (tag : Option String) : Bool :=
  tag.isNone || tag == some "!"

def collectionTag (tag : Option String) (default : Tag) : Tag :=
  match tag with
  | some uri => if uri == "!" then default else .ofUri uri
  | none => default

def scalarTag (tag : Option String) (text : String) (plain : Bool) : Tag :=
  match tag with
  | some uri => if uri == "!" then .ofText text else .ofUri uri
  | none => if plain then .ofText text else .str

def isOneOf (t : Token) (ts : List Token) : Bool :=
  ts.contains t

mutual

def readNode (scope : Scope) (inBlock indentless : Bool) : Nat → Reader → Result (Node × Reader)
  | 0, _ => malformed
  | limit + 1, r => do
      match ← peek scope r with
      | .alias name =>
          match r.anchors.lookup name with
          | some (some node) => return (node, r.drop)
          | _ => malformed
      | _ =>
          let ((anchor, tag), r) ← properties scope r
          let tag ← fullTag scope tag
          if (anchor.map fun name => (r.anchors.lookup name).isSome).getD false then malformed
          else
            let r := r.setAnchor anchor none
            let next ← peek scope r
            let (node, r) ← show Result (Node × Reader) from
              match next with
              | .blockEntry =>
                  if indentless then do
                    let (items, r) ← readIndentless scope limit r
                    return (.sequence (collectionTag tag .seq) items, r)
                  else if anchor.isSome || tag.isSome then
                    return (.scalar (scalarTag tag "" (isOpen tag)) "", r)
                  else malformed
              | .scalar text plain => return (.scalar (scalarTag tag text plain) text, r.drop)
              | .flowSequence => do
                  let (items, r) ← readFlowItems scope true limit r.drop
                  return (.sequence (collectionTag tag .seq) items, r)
              | .flowMapping => do
                  let (entries, r) ← readFlowEntries scope true limit r.drop
                  return (.mapping (collectionTag tag .map) entries, r)
              | t =>
                  if inBlock && t == .blockSequence then do
                    let (items, r) ← readItems scope limit r.drop
                    return (.sequence (collectionTag tag .seq) items, r)
                  else if inBlock && t == .blockMapping then do
                    let (entries, r) ← readEntries scope limit r.drop
                    return (.mapping (collectionTag tag .map) entries, r)
                  else if anchor.isSome || tag.isSome then
                    return (.scalar (scalarTag tag "" (isOpen tag)) "", r)
                  else malformed
            return (node, r.setAnchor anchor (some node))

-- A node, or the empty node where one of `stops` comes first.
def readOptional (scope : Scope) (inBlock indentless : Bool) (stops : List Token) :
    Nat → Reader → Result (Node × Reader)
  | 0, _ => malformed
  | limit + 1, r => do
      if isOneOf (← peek scope r) stops then return (emptyNode, r)
      else readNode scope inBlock indentless limit r

def readItems (scope : Scope) : Nat → Reader → Result (List Node × Reader)
  | 0, _ => malformed
  | limit + 1, r => do
      match ← peek scope r with
      | .blockEntry =>
          let (item, r) ← readOptional scope true false [.blockEntry, .blockEnd] limit r.drop
          let (items, r) ← readItems scope limit r
          return (item :: items, r)
      | .blockEnd => return ([], r.drop)
      | _ => malformed

def readIndentless (scope : Scope) : Nat → Reader → Result (List Node × Reader)
  | 0, _ => malformed
  | limit + 1, r => do
      match ← peek scope r with
      | .blockEntry =>
          let (item, r) ←
            readOptional scope true false [.blockEntry, .key, .value, .blockEnd] limit r.drop
          let (items, r) ← readIndentless scope limit r
          return (item :: items, r)
      | _ => return ([], r)

-- The value after a key, in a block or in flow; without a value mark it is empty.
def readEntryValue (scope : Scope) (inBlock : Bool) (stops : List Token) :
    Nat → Reader → Result (Node × Reader)
  | 0, _ => malformed
  | limit + 1, r => do
      match ← peek scope r with
      | .value => readOptional scope inBlock inBlock stops limit r.drop
      | _ => return (emptyNode, r)

def readEntries (scope : Scope) : Nat → Reader → Result (List (Node × Node) × Reader)
  | 0, _ => malformed
  | limit + 1, r => do
      match ← peek scope r with
      | .key =>
          let (key, r) ← readOptional scope true true [.key, .value, .blockEnd] limit r.drop
          let (value, r) ← readEntryValue scope true [.key, .value, .blockEnd] limit r
          let (entries, r) ← readEntries scope limit r
          return ((key, value) :: entries, r)
      | .blockEnd => return ([], r.drop)
      | _ => malformed

def readFlowItems (scope : Scope) (first : Bool) : Nat → Reader → Result (List Node × Reader)
  | 0, _ => malformed
  | limit + 1, r => do
      match ← peek scope r with
      | .flowSequenceEnd => return ([], r.drop)
      | t =>
          if !first && t != .flowEntry then malformed
          else
            let r := if first then r else r.drop
            match ← peek scope r with
            | .key =>
                let (key, r) ←
                  readOptional scope false false [.value, .flowEntry, .flowSequenceEnd] limit r.drop
                let (value, r) ← readEntryValue scope false [.flowEntry, .flowSequenceEnd] limit r
                let (items, r) ← readFlowItems scope false limit r
                return (.mapping .map [(key, value)] :: items, r)
            | .flowSequenceEnd => return ([], r.drop)
            | _ =>
                let (item, r) ← readNode scope false false limit r
                let (items, r) ← readFlowItems scope false limit r
                return (item :: items, r)

def readFlowEntries (scope : Scope) (first : Bool) : Nat → Reader → Result (List (Node × Node) × Reader)
  | 0, _ => malformed
  | limit + 1, r => do
      match ← peek scope r with
      | .flowMappingEnd => return ([], r.drop)
      | t =>
          if !first && t != .flowEntry then malformed
          else
            let r := if first then r else r.drop
            match ← peek scope r with
            | .key =>
                let (key, r) ←
                  readOptional scope false false [.value, .flowEntry, .flowMappingEnd] limit r.drop
                let (value, r) ← readEntryValue scope false [.flowEntry, .flowMappingEnd] limit r
                let (entries, r) ← readFlowEntries scope false limit r
                return ((key, value) :: entries, r)
            | .flowMappingEnd => return ([], r.drop)
            | _ =>
                let (key, r) ← readNode scope false false limit r
                let (entries, r) ← readFlowEntries scope false limit r
                return ((key, emptyNode) :: entries, r)

end

def defaultHandles : List (String × String) :=
  [("!", "!"), ("!!", Tag.stem)]

-- The tag handles that the directives set; a version may be given once and has to be 1.
def directives (fault : Fault) : Bool → List (String × String) → List Token →
    Result (List (String × String) × List Token)
  | versioned, handles, t :: rest =>
      match t with
      | .versionDirective major =>
          if versioned || major != 1 then malformed else directives fault true handles rest
      | .tagDirective handle stem =>
          if (handles.lookup handle).isSome then malformed
          else directives fault versioned ((handle, stem) :: handles) rest
      | .otherDirective => directives fault versioned handles rest
      | t => .ok (handles, t :: rest)
  | _, _, [] => .error fault

def endsStream (fault : Fault) : List Token → Result Unit
  | .documentEnd :: rest => endsStream fault rest
  | .streamEnd :: _ => .ok ()
  | _ :: _ => malformed
  | [] => .error fault

def readContent (scope : Scope) (optional : Bool) (tokens : List Token) : Result Node := do
  let limit := 4 * tokens.length + 4
  let stops := if optional then [.documentStart, .documentEnd, .streamEnd] else []
  let (node, r) ← readOptional scope true false stops limit ⟨tokens, []⟩
  endsStream scope.fault r.tokens
  return node

def readMarked (fault : Fault) (tokens : List Token) : Result (Option Node) := do
  match tokens with
  | .streamEnd :: _ => return none
  | tokens =>
      let (handles, rest) ← directives fault false [] tokens
      match rest with
      | .documentStart :: rest => return some (← readContent ⟨handles ++ defaultHandles, fault⟩ true rest)
      | _ => malformed

def Node.ofText (text : List Char) : Result (Option Node) := do
  let (tokens, ended) := Token.ofText text
  let fault := ended.getD .malformed
  match tokens with
  | [] => .error fault
  | .streamEnd :: _ => return none
  | .versionDirective _ :: _ | .tagDirective _ _ :: _ | .otherDirective :: _ | .documentStart :: _ =>
      readMarked fault tokens
  | _ => return some (← readContent ⟨defaultHandles, fault⟩ false tokens)

end ApiStubs.Yaml
