import ApiStubs.Error
import ApiStubs.Json.Reader
import ApiStubs.Yaml.Document

/- Descriptions of interfaces as documents. A text is read as JSON and then as YAML, unless it is known
   which of them it is; it has to be an object, of version 3. -/

set_option autoImplicit false

namespace ApiStubs.Description

inductive Form where
  | json
  | yaml
  | unknown
deriving DecidableEq, Repr

def requireObject : Value → Except Error Entries
  | .map entries => .ok entries
  | .null => .error (.notAnObject "empty document")
  | v => .error (.notAnObject v.kindName)

def readYaml (notes : List String) (content : String) : Except Error Entries :=
  match Yaml.read content with
  | .ok v => requireObject v
  | .error .malformed => .error (.unparsable (notes ++ ["YAML error: <yaml>"]))
  | .error fault => .error (.defect (.scalar fault))

def parse (form : Form) (content : String) : Except Error Entries :=
  if form = .yaml then readYaml [] content
  else
    match Json.read content with
    | .ok v => requireObject v
    | .error (.oversized _) => .error (.defect .oversized)
    | .error (.syntactic problem left) =>
        let text := Json.placed problem content.toList left
        if form = .json then .error (.invalidJson text) else readYaml ["JSON error: " ++ text] content

-- The version of a description, which has to begin with `3.`.
def versionOf (document : Entries) : Except Error String :=
  match document.get? "swagger" with
  | some version => .error (.swagger version.display)
  | none =>
      match document.get "openapi" with
      | .null => .error .versionMissing
      | v =>
          if "3.".toList.isPrefixOf v.display.toList then .ok v.display
          else .error (.unsupportedVersion v.display)

end ApiStubs.Description
