import ApiStubs.Value.Display
import ApiStubs.Yaml.Cursor

/- Why something failed. Each cause is a constructor; the wording and the exit code of a cause stand in
   one place each. Causes with a category are failures of the user's input and have a message; the
   others are defects of single values or of the file system. -/

set_option autoImplicit false

namespace ApiStubs

open ApiStubs.Decimal

-- A field that does not hold what it should: its dotted place and the kind of the defect.
inductive IssueKind where
  | missing
  | modelType
  | mapType
  | stringType
  | stringEncoding
  | intType
  | intParsing
  | intParsingSize
  | intFromFloat
  | finiteNumber
  | belowMinimum
  | literal
deriving DecidableEq, Repr

structure Issue where
  place : List String
  kind : IssueKind
deriving DecidableEq, Repr

def IssueKind.name : IssueKind → String
  | .missing => "missing"
  | .modelType => "model_type"
  | .mapType => "dict_type"
  | .stringType => "string_type"
  | .stringEncoding => "string_unicode"
  | .intType => "int_type"
  | .intParsing => "int_parsing"
  | .intParsingSize => "int_parsing_size"
  | .intFromFloat => "int_from_float"
  | .finiteNumber => "finite_number"
  | .belowMinimum => "greater_than_equal"
  | .literal => "literal_error"

def Issue.under (field : String) (issue : Issue) : Issue :=
  ⟨field :: issue.place, issue.kind⟩

inductive FileFault where
  | missing
  | exists
  | notDirectory
  | isDirectory
  | busy
  | noSpace
  | nameTooLong
deriving DecidableEq, Repr

def FileFault.code : FileFault → Nat
  | .missing => 2
  | .busy => 16
  | .exists => 17
  | .notDirectory => 20
  | .isDirectory => 21
  | .noSpace => 28
  | .nameTooLong => 36

def FileFault.text (f : FileFault) : String :=
  "[Errno " ++ natText f.code ++ "]"

inductive Category where
  | general
  | usage
  | configuration
  | description
  | format
  | generation
deriving DecidableEq, Repr

def Category.exitCode : Category → Int
  | .general => 1
  | .configuration => 1
  | .usage => 2
  | .description => 7
  | .format => 7
  | .generation => 8

-- What stood in the way of using the content of a file. The details of issues, of an encoding and of a kind
-- mismatch are not put into words.
inductive Reason where
  | syntactic (problem : String)
  | issues (found : List Issue)
  | encoding
  | file (fault : FileFault)
  | noEntry (name : String)
  | kindMismatch
  | oversized (digits : Nat)
deriving DecidableEq, Repr

def Reason.text : Reason → String
  | .syntactic problem => problem
  | .issues _ => "<validation>"
  | .encoding => "<codec>"
  | .file fault => fault.text
  | .noEntry name => Text.quoted name
  | .kindMismatch => "<type>"
  | .oversized digits =>
      "Exceeds the limit (4300 digits) for integer string conversion: value has " ++ natText digits ++
        " digits; use sys.set_int_max_str_digits() to increase the limit"

inductive Shape where
  | object
  | list
  | string
deriving DecidableEq, Repr

def Shape.phrase : Shape → String
  | .object => "an object"
  | .list => "a list"
  | .string => "a string"

-- Defects of single values, without a message of their own.
inductive Defect where
  | unwritable
  | notHashable
  | notIterable
  | badUrl
  | oversized
  | scalar (fault : Yaml.Fault)
  | brokenText
deriving DecidableEq, Repr

inductive Error where
  | stated (category : Category) (message : String) (code : Option Int)
  | emptySource (source : String)
  | unreadInput (reason : String)
  | noInput
  | httpStatus (status : Int) (url : String)
  | unreachable (url reason : String)
  | noSuchSpec (path : String)
  | unsupportedFormat (form : String)
  | unreadableSpec (path : String) (reason : Reason)
  | invalidJson (problem : String)
  | unparsable (notes : List String)
  | notAnObject (kind : String)
  | swagger (version : String)
  | versionMissing
  | unsupportedVersion (version : String)
  | wrongShape (expected : Shape) (location kind : String)
  | pathKey (location : String)
  | statusKey (key : String)
  | namelessHeader (parameter : String)
  | invalidMappings (reason : Reason)
  | referenceNotFound (pointer : String) (segment : Option String)
  | referenceDepth (pointer : Value) (bound : Int)
  | schemaDepth (bound : Int) (location : Option String)
  | invalidUserConfig (path : String) (reason : Reason)
  | invalidProject (path : String) (reason : Reason)
  | projectNotObject (path : String)
  | projectGenerator
  | seedNotInteger (text : String)
  | invalidSettings (found : List Issue)
  | invalidKey (key : String)
  | unknownKey (key : String)
  | integerExpected (key text : String)
  | invalid (found : List Issue)
  | file (fault : FileFault)
  | defect (cause : Defect)
  | interrupted
deriving DecidableEq

namespace Error

def category : Error → Option Category
  | .stated category _ _ => some category
  | .emptySource _ | .unreadInput _ | .noInput | .httpStatus _ _ | .unreachable _ _ | .noSuchSpec _
  | .unreadableSpec _ _ | .invalidJson _ | .unparsable _ | .notAnObject _ | .swagger _
  | .versionMissing | .unsupportedVersion _ | .wrongShape _ _ _ | .pathKey _ | .statusKey _
  | .namelessHeader _ | .invalidMappings _ => some .description
  | .unsupportedFormat _ => some .format
  | .referenceNotFound _ _ | .referenceDepth _ _ | .schemaDepth _ _ => some .generation
  | .invalidUserConfig _ _ | .invalidProject _ _ | .projectNotObject _ | .projectGenerator
  | .seedNotInteger _ | .invalidSettings _ => some .configuration
  | .invalidKey _ | .unknownKey _ | .integerExpected _ _ => some .usage
  | .invalid _ | .file _ | .defect _ | .interrupted => none

def isReported (e : Error) : Bool :=
  e.category.isSome

def exitCode (e : Error) : Int :=
  match e with
  | .stated category _ code => code.getD category.exitCode
  | e => (e.category.map Category.exitCode).getD 1

def shapeText (expected : Shape) (location kind : String) : String :=
  "Expected " ++ expected.phrase ++ " at " ++ location ++ ", got " ++ kind

def message : Error → String
  | .stated _ message _ => message
  | .emptySource source => "Spec source is empty: " ++ source
  | .unreadInput reason => "Failed to read from stdin: " ++ reason
  | .noInput => "No input received from stdin"
  | .httpStatus status url => "HTTP " ++ intText status ++ " fetching spec from " ++ url
  | .unreachable url reason => "Failed to fetch spec from " ++ url ++ ": " ++ reason
  | .noSuchSpec path => "Spec file not found: " ++ path
  | .unsupportedFormat form =>
      "Unsupported file format '" ++ form ++ "': only JSON and YAML are supported"
  | .unreadableSpec path reason => "Failed to read spec file " ++ path ++ ": " ++ reason.text
  | .invalidJson problem => "Invalid JSON: " ++ problem
  | .unparsable notes =>
      "Failed to parse spec as JSON or YAML" ++ String.join (notes.map ("\n  " ++ ·))
  | .notAnObject kind => "Spec must be a JSON/YAML object (got " ++ kind ++ ")"
  | .swagger version =>
      "Swagger " ++ version ++ " is not supported. Only OpenAPI 3.x documents are supported. " ++
        "Consider converting with https://converter.swagger.io"
  | .versionMissing => "Missing 'openapi' field. Is this an OpenAPI 3.x document?"
  | .unsupportedVersion version =>
      "Unsupported OpenAPI version: " ++ version ++ ". Only OpenAPI 3.x documents are supported."
  | .wrongShape expected location kind => shapeText expected location kind
  | .pathKey location => "Path key at " ++ location ++ " must be a string"
  | .statusKey key => "Invalid response status code '" ++ key ++ "'"
  | .namelessHeader parameter => "Required header parameter without a name: " ++ parameter
  | .invalidMappings reason => "Invalid mapping document: " ++ reason.text
  | .referenceNotFound pointer none => "Cannot resolve $ref '" ++ pointer ++ "'"
  | .referenceNotFound pointer (some segment) =>
      "Cannot resolve $ref '" ++ pointer ++ "': key '" ++ segment ++ "' not found"
  | .referenceDepth pointer bound =>
      "Exceeded maximum reference depth of " ++ intText bound ++ " while resolving '" ++
        pointer.display ++ "'"
  | .schemaDepth bound location =>
      "Exceeded maximum schema resolution depth of " ++ intText bound ++
        (match location with
          | some place => if place = "" then "" else " at " ++ place
          | none => "")
  | .invalidUserConfig path reason => "Invalid global config at " ++ path ++ ": " ++ reason.text
  | .invalidProject path reason => "Invalid project config at " ++ path ++ ": " ++ reason.text
  | .projectNotObject path => "Invalid project config at " ++ path ++ ": expected a JSON object"
  | .projectGenerator => "Project config 'generator' must be a JSON object"
  | .seedNotInteger text => "SPECMOCK_SEED must be an integer, got '" ++ text ++ "'"
  | .invalidSettings found => "Invalid generator settings: " ++ (Reason.issues found).text
  | .invalidKey key => "Invalid config key: " ++ key
  | .unknownKey key => "Unknown config key: " ++ key
  | .integerExpected key text => "Expected integer for " ++ key ++ ", got: " ++ text
  | .invalid found => (Reason.issues found).text
  | .file fault => fault.text
  | .defect _ | .interrupted => ""

def issues : Error → List Issue
  | .invalidMappings (.issues found) | .invalidUserConfig _ (.issues found) | .invalidSettings found
  | .invalid found => found
  | _ => []

end Error

end ApiStubs
