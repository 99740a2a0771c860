import ApiStubs.Error
import ApiStubs.Value.Entries
import ApiStubs.Decimal.Literal
import ApiStubs.Text.Character

/- Settings of the compiler and of its output, their defaults, and the checking of values given for
   them. A check reports every field that is wrong, in the order in which fields are declared; keys that
   name no field are passed over. -/

set_option autoImplicit false

namespace ApiStubs

open ApiStubs.Decimal ApiStubs.Text

structure Settings where
  headerPlaceholder : String := "example-header-value"
  parameterPlaceholderStem : String := "example-"
  errorIdentifierHeader : String := "X-Error-Identifier"
  errorStatusThreshold : Int := 400
  defaultStatus : Int := 500
  maxReferenceDepth : Int := 10
  maxSchemaDepth : Int := 100
  arrayCardinality : Int := 1
  mediaType : String := "application/json"
  locale : String := "en_US"
  seed : Option Int := none
  dateFormat : String := "%Y-%m-%d"
  dateTimeFormat : String := "%Y-%m-%dT%H:%M:%SZ"
deriving DecidableEq, Inhabited

inductive OutputFormat where
  | auto
  | json
  | plain
  | rich
deriving DecidableEq, Repr, Inhabited

def OutputFormat.name : OutputFormat → String
  | .auto => "auto"
  | .json => "json"
  | .plain => "plain"
  | .rich => "rich"

structure Config where
  generator : Settings := {}
  format : OutputFormat := .auto
deriving DecidableEq, Inhabited

namespace Check

abbrev Checked (α : Type) := Except (List Issue) α

def refuse {α : Type} (kind : IssueKind) : Checked α :=
  .error [⟨[], kind⟩]

def under {α : Type} (name : String) (field : Checked α) : Checked α :=
  match field with
  | .ok a => .ok a
  | .error found => .error (found.map (Issue.under name))

-- Both results, or the issues of both.
def both {α β : Type} (first : Checked α) (second : Checked β) : Checked (α × β) :=
  match first, second with
  | .ok a, .ok b => .ok (a, b)
  | .error found, .ok _ => .error found
  | .ok _, .error found => .error found
  | .error found, .error more => .error (found ++ more)

def optional {α : Type} (entries : Entries) (name : String) (default : α)
    (check : Value → Checked α) : Checked α :=
  match Entries.get? entries name with
  | some v => under name (check v)
  | none => .ok default

def required {α : Type} (entries : Entries) (name : String) (check : Value → Checked α) : Checked α :=
  match Entries.get? entries name with
  | some v => under name (check v)
  | none => under name (refuse .missing)

def orNull {α : Type} (check : Value → Checked α) (v : Value) : Checked (Option α) :=
  match v with
  | .null => .ok none
  | v => (check v).map some

def text : Value → Checked String
  | .str s => .ok s
  | .bytes data =>
      match String.fromUTF8? data with
      | some s => .ok s
      | none => refuse .stringEncoding
  | _ => refuse .stringType

def dropZeroPlaces (cs : List Char) : List Char :=
  let tail := cs.dropWhile (· != '.')
  match tail with
  | '.' :: places => if places.all (· == '0') then cs.takeWhile (· != '.') else cs
  | _ => cs

def wholeNumber (s : String) : Checked Int :=
  let cs := trim isNumberBlank s.toList
  let (negative, rest) := splitSign cs
  let ds := dropZeroPlaces rest
  if cs.length > digitLimit then refuse .intParsingSize
  else if ds.all fun c => c.isDigit || c == '_' then
    match readMagnitude 10 ds with
    | some n => .ok (Binary64.signed negative n)
    | none => refuse .intParsing
  else refuse .intParsing

def int64Bound : Int := 0x8000000000000000

def wholeDouble (x : Binary64) : Checked Int :=
  if !x.isFinite then refuse .finiteNumber
  else
    match x.toInt? with
    | none => refuse .intFromFloat
    | some n => if -int64Bound < n ∧ n < int64Bound then .ok n else refuse .intParsingSize

def int : Value → Checked Int
  | .int n => .ok n
  | .bool b => .ok (if b then 1 else 0)
  | .float x => wholeDouble x
  | .str s => wholeNumber s
  | .bytes data =>
      match String.fromUTF8? data with
      | some s => wholeNumber s
      | none => refuse .intParsing
  | _ => refuse .intType

def atLeast (least : Int) (v : Value) : Checked Int :=
  match int v with
  | .ok n => if least ≤ n then .ok n else refuse .belowMinimum
  | .error found => .error found

def model {α : Type} (check : Entries → Checked α) : Value → Checked α
  | .map entries => check entries
  | _ => refuse .modelType

end Check

namespace Settings

open Check

def ofEntries (entries : Entries) : Checked Settings :=
  let d : Settings := {}
  (both (optional entries "header_placeholder" d.headerPlaceholder text)
    (both (optional entries "parameter_placeholder_prefix" d.parameterPlaceholderStem text)
      (both (optional entries "error_identifier_header" d.errorIdentifierHeader text)
        (both (optional entries "error_status_threshold" d.errorStatusThreshold int)
          (both (optional entries "default_status" d.defaultStatus int)
            (both (optional entries "max_reference_depth" d.maxReferenceDepth (atLeast 1))
              (both (optional entries "max_schema_depth" d.maxSchemaDepth (atLeast 1))
                (both (optional entries "array_cardinality" d.arrayCardinality (atLeast 0))
                  (both (optional entries "media_type" d.mediaType text)
                    (both (optional entries "locale" d.locale text)
                      (both (optional entries "seed" d.seed (orNull int))
                        (both (optional entries "date_format" d.dateFormat text)
                          (optional entries "datetime_format" d.dateTimeFormat text))))))))))))).map
    fun (a, b, c, e, f, g, h, i, j, k, l, m, n) => ⟨a, b, c, e, f, g, h, i, j, k, l, m, n⟩

def ofValue : Value → Checked Settings :=
  model ofEntries

def optionalInt : Option Int → Value
  | some n => .int n
  | none => .null

def toEntries (s : Settings) : Entries :=
  [
    (.str "header_placeholder", .str s.headerPlaceholder),
    (.str "parameter_placeholder_prefix", .str s.parameterPlaceholderStem),
    (.str "error_identifier_header", .str s.errorIdentifierHeader),
    (.str "error_status_threshold", .int s.errorStatusThreshold),
    (.str "default_status", .int s.defaultStatus),
    (.str "max_reference_depth", .int s.maxReferenceDepth),
    (.str "max_schema_depth", .int s.maxSchemaDepth),
    (.str "array_cardinality", .int s.arrayCardinality),
    (.str "media_type", .str s.mediaType),
    (.str "locale", .str s.locale),
    (.str "seed", optionalInt s.seed),
    (.str "date_format", .str s.dateFormat),
    (.str "datetime_format", .str s.dateTimeFormat)]

def toValue (s : Settings) : Value :=
  .map s.toEntries

end Settings

namespace OutputFormat

def ofName? (name : String) : Option OutputFormat :=
  [auto, json, plain, rich].find? fun f => f.name == name

def ofValue : Value → Check.Checked OutputFormat
  | .str s =>
      match ofName? s with
      | some f => .ok f
      | none => Check.refuse .literal
  | _ => Check.refuse .literal

end OutputFormat

namespace Config

open Check

def ofEntries (entries : Entries) : Checked Config :=
  (both (optional entries "generator" {} Settings.ofValue)
    (optional entries "output" .auto (model fun output =>
      optional output "format" .auto OutputFormat.ofValue))).map
    fun (generator, format) => ⟨generator, format⟩

def ofValue : Value → Checked Config :=
  model ofEntries

def toEntries (c : Config) : Entries :=
  [
    (.str "generator", c.generator.toValue),
    (.str "output", .map [(.str "format", .str c.format.name)])]

def toValue (c : Config) : Value :=
  .map c.toEntries

end Config

end ApiStubs
