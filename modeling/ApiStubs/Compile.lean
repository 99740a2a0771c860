import ApiStubs.Log
import ApiStubs.Response
import ApiStubs.Stub
import ApiStubs.Url

/- Compiling a description into stubs: one for every path, method and response key, in the order in which
   they stand. What is written down on the way (the generator, the identifiers given out, the body files
   named so far, the stubs, files, warnings and records) is kept also when the compilation fails, but
   only its records leave it then. -/

set_option autoImplicit false

namespace ApiStubs

open ApiStubs.Decimal ApiStubs.Text
open Parameter (Headers)

namespace Compile

structure Progress where
  generator : Generator
  issued : Nat
  -- How often each stem of a body file's name was used.
  uses : List (String × Nat)
  stubs : List Stub
  files : List BodyFile
  warnings : List Unresolved
  records : List Log.Record

-- The first identifier given out counts one further than those issued before.
def Progress.start (generator : Generator) (issued : Nat) : Progress :=
  ⟨generator, issued, [], [], [], [], []⟩

abbrev Step (α : Type) := ExceptT Error (StateM Progress) α

structure Scope where
  settings : Settings
  document : Value
  specName : String
  basePath : String

structure Operation where
  method : String
  url : String
  requiredHeaders : Headers
  location : String

def methods : List String :=
  ["get", "put", "post", "delete", "options", "head", "patch", "trace"]

def isMethod (key : Value) : Bool :=
  methods.contains (asciiLower key.display)

-- The path of the first server's URL without its trailing slashes.
def basePath (document : Entries) : Except Error String := do
  match ← Shape.listAt "#/servers" (document.get "servers") with
  | [] => return ""
  | first :: _ =>
      let server ← Shape.objectAt "#/servers/0" first
      let url := server.get "url"
      if url.isTrue then
        match url with
        | .str s =>
            match Url.path? s with
            | some path => return String.ofList (trimRight (· == '/') path.toList)
            | none => throw (.defect .badUrl)
        | v => throw (.wrongShape .string "#/servers/0/url" v.kindName)
      else return ""

def unresolvedRecord (u : Unresolved) : Log.Record :=
  ⟨.warning, "Parameter '" ++ u.name ++ "' not found in parameters of '" ++ u.path ++ "'"⟩

def mappedRecord (method url : String) (status : Int) : Log.Record :=
  ⟨.debug, "Mapped " ++ method ++ " " ++ url ++ " -> " ++ intText status⟩

def attempt {α : Type} (result : Except Error α) : Step α :=
  ExceptT.mk (pure result)

def report (found : List Unresolved) : Step Unit :=
  modify fun p => { p with
    warnings := p.warnings ++ found
    records := p.records ++ found.map unresolvedRecord }

def drawing {α : Type} (computation : Drawing α) : Step α := do
  let p ← get
  let (a, generator) ← attempt (computation p.generator)
  set { p with generator := generator }
  return a

def stemOf (specName statusText : String) : String :=
  specName ++ "-response-" ++ statusText

def fileName (stem : String) (use : Nat) : String :=
  if use = 1 then stem ++ ".json" else stem ++ "-" ++ natText use ++ ".json"

def countUse : List (String × Nat) → String → List (String × Nat)
  | [], stem => [(stem, 1)]
  | (s, n) :: rest, stem => if s = stem then (s, n + 1) :: rest else (s, n) :: countUse rest stem

def usesOf (uses : List (String × Nat)) (stem : String) : Nat :=
  (uses.lookup stem).getD 0

-- A name for the next body file of a status: the second and later ones are numbered.
def nextFileName (specName statusText : String) : Step String := do
  let stem := stemOf specName statusText
  let p ← get
  set { p with uses := countUse p.uses stem }
  return fileName stem (usesOf p.uses stem + 1)

def addFile (file : BodyFile) : Step Unit :=
  modify fun p => { p with files := p.files ++ [file] }

-- An error response is asked for by its key; any other needs the required headers.
def requestHeaders (settings : Settings) (status : Int) (statusText : String) (required : Headers) :
    Headers :=
  if settings.errorStatusThreshold ≤ status then [(settings.errorIdentifierHeader, statusText)]
  else required

def withContentType (settings : Settings) (headers : Headers) : Headers :=
  headers.foldl (fun acc h => Parameter.putHeader acc h.1 h.2) [("Content-Type", settings.mediaType)]

def orNone (headers : Headers) : Option Headers :=
  if headers.isEmpty then none else some headers

-- What a stub answers; a body that is not null goes into a file.
def definition (scope : Scope) (status : Int) (statusText : String) (headers : Headers) (body : Value) :
    Step ResponseDefinition :=
  match body with
  | .null => return ⟨status, orNone headers, none⟩
  | body => do
      let name ← nextFileName scope.specName statusText
      addFile (← attempt (BodyFile.ofValue name body))
      return ⟨status, some (withContentType scope.settings headers), some name⟩

def addStub (request : RequestMatcher) (response : ResponseDefinition) : Step Unit :=
  modify fun p => { p with
    issued := p.issued + 1
    stubs := p.stubs ++ [⟨"id-" ++ natText (p.issued + 1), request, response⟩]
    records := p.records ++ [mappedRecord request.method request.urlPattern response.status] }

def compileResponse (scope : Scope) (operation : Operation) (key raw : Value) : Step Unit := do
  let statusText := key.display
  let status ← attempt (Response.statusOf scope.settings statusText)
  let location := raw.targetLocation (Pointer.extendText operation.location statusText)
  let node ← attempt (Value.resolved scope.document scope.settings.maxReferenceDepth raw)
  let response ← attempt (Shape.objectAt location node)
  let headers ← attempt (Response.headersOf scope.settings scope.document location response)
  let body ← drawing (Response.bodyOf scope.settings scope.document location response)
  let answer ← definition scope status statusText headers body
  let wanted := requestHeaders scope.settings status statusText operation.requiredHeaders
  addStub ⟨operation.method, operation.url, wanted⟩ answer

def compileResponses (scope : Scope) (operation : Operation) : Entries → Step Unit
  | [] => return ()
  | (key, raw) :: rest => do
      compileResponse scope operation key raw
      compileResponses scope operation rest

def compileOperation (scope : Scope) (path : String) (shared : List Value) (location : String)
    (method : Value) (raw : Value) : Step Unit := do
  let operation ← attempt (Shape.objectAt location raw)
  let own ← attempt (Shape.listAt (Pointer.extendText location "parameters") (operation.get "parameters"))
  let merged ← attempt (Parameter.merge scope.settings scope.document shared own)
  let parameters := merged.map Value.map
  let (text, found) := PathTemplate.fill scope.settings scope.document path parameters
  report found
  let url := scope.basePath ++ (← attempt text)
  let required ← attempt (Parameter.requiredHeaders scope.settings scope.document [] parameters)
  let responsesLocation := Pointer.extendText location "responses"
  let responses ← attempt (Shape.objectAt responsesLocation (operation.get "responses"))
  compileResponses scope ⟨asciiUpper method.display, url, required, responsesLocation⟩ responses

def compileOperations (scope : Scope) (path : String) (shared : List Value) (location : String) :
    Entries → Step Unit
  | [] => return ()
  | (key, raw) :: rest => do
      if isMethod key then
        compileOperation scope path shared (Pointer.extendText location key.display) key raw
      compileOperations scope path shared location rest

def compilePath (scope : Scope) (key raw : Value) : Step Unit := do
  let location := Pointer.extendText "#/paths" key.display
  match key with
  | .str path => do
      let node ← attempt (Value.resolved scope.document scope.settings.maxReferenceDepth raw)
      let item ← attempt (Shape.objectAt (raw.targetLocation location) node)
      let shared ← attempt (Shape.listAt (Pointer.extendText location "parameters") (item.get "parameters"))
      compileOperations scope path shared location item
  | _ => throw (.pathKey location)

def compilePaths (scope : Scope) : Entries → Step Unit
  | [] => return ()
  | (key, raw) :: rest => do
      compilePath scope key raw
      compilePaths scope rest

def compileDocument (settings : Settings) (specName : String) (document : Entries) : Step Unit := do
  let base ← attempt (basePath document)
  let paths ← attempt (Shape.objectAt "#/paths" (document.get "paths"))
  compilePaths ⟨settings, .map document, specName, base⟩ paths

end Compile

def Compile.Progress.result (specName : String) (p : Compile.Progress) : Compilation :=
  ⟨specName, p.stubs, p.files, p.warnings⟩

-- What is left of a compilation: its outcome, the records made on the way and how many identifiers have
-- been given out by then.
structure Compile.Report where
  outcome : Except Error Compilation
  records : List Log.Record
  issued : Nat

def compileFrom (generator : Generator) (issued : Nat) (settings : Settings) (specName : String)
    (document : Entries) : Compile.Report :=
  let (outcome, progress) :=
    (Compile.compileDocument settings specName document).run.run (Compile.Progress.start generator issued)
  ⟨outcome.map fun _ => progress.result specName, progress.records, progress.issued⟩

def compile (settings : Settings) (specName : String) (document : Entries) : Except Error Compilation :=
  (compileFrom (Generator.start settings) 0 settings specName document).outcome

-- The stubs alone, of a description that is given no name.
def compileStubs (generator : Generator) (issued : Nat) (settings : Settings) (document : Entries) :
    Except Error (List Stub) :=
  (compileFrom generator issued settings "spec" document).outcome.map Compilation.stubs

end ApiStubs
