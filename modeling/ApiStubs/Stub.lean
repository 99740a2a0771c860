import ApiStubs.Json.Writer
import ApiStubs.Json.Reader
import ApiStubs.Parameter
import ApiStubs.PathTemplate

/- Stubs: what a mock server matches in a request and what it answers. Documents of stubs are written as
   JSON and read back; a field without value is left out, and the fields whose names are spelled in two
   ways are read under either, the spelling that is written going first. -/

set_option autoImplicit false

namespace ApiStubs

open Parameter (Headers)

structure RequestMatcher where
  method : String
  urlPattern : String
  headers : Headers
deriving DecidableEq

structure ResponseDefinition where
  status : Int
  headers : Option Headers
  bodyFileName : Option String
deriving DecidableEq

structure Stub where
  id : String
  request : RequestMatcher
  response : ResponseDefinition
deriving DecidableEq

structure BodyFile where
  name : String
  content : ByteArray
deriving DecidableEq

structure Compilation where
  name : String
  stubs : List Stub
  files : List BodyFile
  warnings : List Unresolved
deriving DecidableEq

def BodyFile.ofValue (name : String) (v : Value) : Except Error BodyFile :=
  match Json.render .document v with
  | .ok s => .ok ⟨name, s.toUTF8⟩
  | .error cause => .error (.defect cause)

namespace RequestMatcher

def matcherValue (text : String) : Value :=
  .map [(.str "equalTo", .str text)]

def toValue (r : RequestMatcher) : Value :=
  .map [
    (.str "method", .str r.method),
    (.str "urlPattern", .str r.urlPattern),
    (.str "headers", .map (r.headers.map fun h => (.str h.1, matcherValue h.2)))]

end RequestMatcher

namespace ResponseDefinition

def headersValue (headers : Headers) : Value :=
  .map (headers.map fun h => (.str h.1, .str h.2))

def toValue (r : ResponseDefinition) : Value :=
  .map ([(.str "status", .int r.status)] ++
    (match r.headers with
      | some headers => [(.str "headers", headersValue headers)]
      | none => []) ++
    (match r.bodyFileName with
      | some name => [(.str "bodyFileName", .str name)]
      | none => []))

end ResponseDefinition

namespace Stub

def toValue (s : Stub) : Value :=
  .map [(.str "id", .str s.id), (.str "request", s.request.toValue),
    (.str "response", s.response.toValue)]

def documentOf (stubs : List Stub) : Value :=
  .map [(.str "mappings", .list (stubs.map toValue))]

def documentText (stubs : List Stub) : Except Error String :=
  match Json.render .document (documentOf stubs) with
  | .ok s => .ok s
  | .error cause => .error (.defect cause)

-- The content of a file of stubs. Of stubs that cannot be written the error is shown, as everywhere.
def dump (stubs : List Stub) : String :=
  match documentText stubs with
  | .ok text => text ++ "\n"
  | .error e => e.message

open Check

def underEither {α : Type} (entries : Entries) (written other : String)
    (absent : Checked α) (check : Value → Checked α) : Checked α :=
  match entries.get? written, entries.get? other with
  | some v, _ => under written (check v)
  | none, some v => under other (check v)
  | none, none => absent

def eachEntry {α : Type} (check : Value → Checked α) : Entries → Checked (List (String × α))
  | [] => .ok []
  | (key, v) :: rest =>
      (both (under key.display (check v)) (eachEntry check rest)).map fun (a, more) =>
        (key.display, a) :: more

def mapOf {α : Type} (check : Value → Checked α) : Value → Checked (List (String × α))
  | .map entries => eachEntry check entries
  | _ => refuse .mapType

def matcher : Value → Checked String :=
  model fun entries =>
    underEither entries "equalTo" "equal_to" (under "equalTo" (refuse .missing)) text

def requestOf : Value → Checked RequestMatcher :=
  model fun entries =>
    (both (required entries "method" text)
      (both (underEither entries "urlPattern" "url_pattern" (under "urlPattern" (refuse .missing)) text)
        (optional entries "headers" [] (mapOf matcher)))).map
      fun (method, url, headers) => ⟨method, url, headers⟩

def responseOf : Value → Checked ResponseDefinition :=
  model fun entries =>
    (both (required entries "status" int)
      (both (optional entries "headers" none (orNull (mapOf text)))
        (underEither entries "bodyFileName" "body_file_name" (.ok none) (orNull text)))).map
      fun (status, headers, name) => ⟨status, headers, name⟩

def ofValue : Value → Checked Stub :=
  model fun entries =>
    (both (required entries "id" text)
      (both (required entries "request" requestOf) (required entries "response" responseOf))).map
      fun (id, request, response) => ⟨id, request, response⟩

def listed : Value → Except Reason (List Value)
  | .list items => .ok items
  | .map entries => .ok (entries.map (·.1))
  | .str s => .ok (s.toList.map fun c => .str (String.ofList [c]))
  | _ => .error .kindMismatch

def readAll : List Value → Except Reason (List Stub)
  | [] => .ok []
  | v :: rest =>
      match ofValue v with
      | .error found => .error (.issues found)
      | .ok stub =>
          match readAll rest with
          | .error reason => .error reason
          | .ok stubs => .ok (stub :: stubs)

def ofDocument : Value → Except Reason (List Stub)
  | .map entries =>
      match Entries.get? entries "mappings" with
      | none => .error (.noEntry "mappings")
      | some v =>
          match listed v with
          | .error reason => .error reason
          | .ok items => readAll items
  | _ => .error .kindMismatch

def parse (s : String) : Except Error (List Stub) :=
  match Json.read s with
  | .error (.oversized _) => .error (.defect .oversized)
  | .error (.syntactic problem left) =>
      .error (.invalidMappings (.syntactic (Json.placed problem s.toList left)))
  | .ok v =>
      match ofDocument v with
      | .ok stubs => .ok stubs
      | .error reason => .error (.invalidMappings reason)

end Stub

end ApiStubs
