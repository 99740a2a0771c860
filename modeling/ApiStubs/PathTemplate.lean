import ApiStubs.Parameter

/- Path templates. A placeholder is a name in braces, without braces or slashes in it; the first of the
   parameters of that name which stands in the path fills it, or else the first of that name. A
   placeholder without parameter stays and is reported, one without a value stays unless it is
   required. -/

set_option autoImplicit false

namespace ApiStubs

structure Unresolved where
  path : String
  name : String
deriving DecidableEq, Repr

def Unresolved.text (u : Unresolved) : String :=
  "Parameter '" ++ u.name ++ "' not found for path '" ++ u.path ++ "'"

namespace PathTemplate

inductive Piece where
  | literal (c : Char)
  | placeholder (name : List Char)
deriving DecidableEq, Repr

def isNameChar (c : Char) : Bool :=
  c != '\x7b' && c != '\x7d' && c != '/'

def nameAfterBrace (cs : List Char) : Option (List Char) :=
  match cs.takeWhile isNameChar, cs.dropWhile isNameChar with
  | c :: name, '\x7d' :: _ => some (c :: name)
  | _, _ => none

-- `skip` characters belong to a placeholder already read.
def piecesFrom : Nat → List Char → List Piece
  | _, [] => []
  | skip + 1, _ :: rest => piecesFrom skip rest
  | 0, c :: rest =>
      if c = '\x7b' then
        match nameAfterBrace rest with
        | some name => .placeholder name :: piecesFrom (name.length + 1) rest
        | none => .literal c :: piecesFrom 0 rest
      else .literal c :: piecesFrom 0 rest

def pieces (path : String) : List Piece :=
  piecesFrom 0 path.toList

def Piece.text : Piece → List Char
  | .literal c => [c]
  | .placeholder name => '\x7b' :: (name ++ ['\x7d'])

def isNamed (name : String) : Value → Bool
  | .map param => Entries.get? param "name" == some (.str name)
  | _ => false

def isInPath : Value → Bool
  | .map param => Entries.get? param "in" == some (.str "path")
  | _ => false

def find (parameters : List Value) (name : String) : Option Value :=
  match (parameters.filter (isNamed name)).find? isInPath with
  | some param => some param
  | none => parameters.find? (isNamed name)

def filling (settings : Settings) (document : Value) (param : Entries) (name : List Char) :
    Except Error (List Char) := do
  match ← Parameter.exampleOf settings document param with
  | none | some .null =>
      if (param.get "required").isTrue then return settings.parameterPlaceholderStem.toList ++ name
      else return (Piece.placeholder name).text
  | some declared => return (← Parameter.exampleText declared).toList

-- The filled pieces, and the placeholders that were reported up to the end or a failure.
def fillPieces (settings : Settings) (document : Value) (path : String) (parameters : List Value) :
    List Piece → Except Error (List Char) × List Unresolved
  | [] => (.ok [], [])
  | .literal c :: rest =>
      let (text, reported) := fillPieces settings document path parameters rest
      (text.map (c :: ·), reported)
  | .placeholder name :: rest =>
      match find parameters (String.ofList name) with
      | some (.map param) =>
          match filling settings document param name with
          | .error e => (.error e, [])
          | .ok form =>
              let (text, reported) := fillPieces settings document path parameters rest
              (text.map (form ++ ·), reported)
      | _ =>
          let (text, reported) := fillPieces settings document path parameters rest
          (text.map ((Piece.placeholder name).text ++ ·), ⟨path, String.ofList name⟩ :: reported)

def fill (settings : Settings) (document : Value) (path : String) (parameters : List Value) :
    Except Error String × List Unresolved :=
  match parameters.mapM (Value.resolved document settings.maxReferenceDepth) with
  | .error e => (.error e, [])
  | .ok resolved =>
      let (text, reported) := fillPieces settings document path resolved (pieces path)
      (text.map String.ofList, reported)

end PathTemplate

end ApiStubs
