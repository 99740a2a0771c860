import ApiStubs.Json.Writer
import ApiStubs.Pointer
import ApiStubs.Settings

/- Parameters and headers: the example one declares, the text of an example, and the parameters of an
   operation, those of its path among them. -/

set_option autoImplicit false

namespace ApiStubs

namespace Parameter

def firstNamed (settings : Settings) (document : Value) (examples : Value) :
    Except Error (Option Value) :=
  match examples with
  | .map ((_, first) :: _) => do
      match ← Value.resolved document settings.maxReferenceDepth first with
      | .map entries => return Entries.get? entries "value"
      | _ => return none
  | _ => return none

def schemaExample (settings : Settings) (document : Value) (param : Entries) :
    Except Error (Option Value) := do
  match ← Value.resolved document settings.maxReferenceDepth (param.get "schema") with
  | .map entries => return Entries.get? entries "example"
  | _ => return none

-- The declared example: its own, else the first named one with a value, else that of the schema.
def exampleOf (settings : Settings) (document : Value) (param : Entries) :
    Except Error (Option Value) :=
  match param.get? "example" with
  | some declared => return some declared
  | none => do
      match ← firstNamed settings document (param.get "examples") with
      | some declared => return some declared
      | none => schemaExample settings document param

-- An example as it stands in a URL or header: texts and dates as they are, all else as JSON on one line.
def exampleText : Value → Except Error String
  | .str s => .ok s
  | .date d => .ok d.isoText
  | .dateTime t => .ok (t.isoText "T")
  | v =>
      match Json.render .inline v with
      | .ok s => .ok s
      | .error cause => .error (.defect cause)

def textOrPlaceholder (settings : Settings) : Option Value → Except Error String
  | none | some .null => .ok settings.headerPlaceholder
  | some v => exampleText v

structure Identity where
  name : Value
  place : Value

def Identity.same (a b : Identity) : Bool :=
  Value.sameKey a.name b.name && Value.sameKey a.place b.place

def identityOf (param : Entries) : Identity :=
  ⟨param.get "name", param.get "in"⟩

-- Puts a parameter in the place of the one it overrides, or at the end.
def override : List Entries → Entries → List Entries
  | [], param => [param]
  | p :: rest, param =>
      if (identityOf p).same (identityOf param) then param :: rest else p :: override rest param

def mergeInto (settings : Settings) (document : Value) :
    List Entries → List Value → Except Error (List Entries)
  | merged, [] => .ok merged
  | merged, raw :: rest => do
      match ← Value.resolved document settings.maxReferenceDepth raw with
      | .map param =>
          let identity := identityOf param
          if identity.name.isKey && identity.place.isKey then
            mergeInto settings document (override merged param) rest
          else throw (.defect .notHashable)
      | _ => mergeInto settings document merged rest

-- The parameters of a path and of an operation, which override those of the same name and place.
def merge (settings : Settings) (document : Value) (ofPath ofOperation : List Value) :
    Except Error (List Entries) :=
  mergeInto settings document [] (ofPath ++ ofOperation)

def isHeader (param : Entries) : Bool :=
  param.get "in" == .str "header" && (param.get "required").isTrue

-- Names with texts, in order; a repeated name keeps its place and takes the last text.
abbrev Headers := List (String × String)

def putHeader : Headers → String → String → Headers
  | [], name, text => [(name, text)]
  | (n, t) :: rest, name, text =>
      if n = name then (n, text) :: rest else (n, t) :: putHeader rest name text

def requiredHeaders (settings : Settings) (document : Value) :
    Headers → List Value → Except Error Headers
  | headers, [] => .ok headers
  | headers, raw :: rest => do
      match ← Value.resolved document settings.maxReferenceDepth raw with
      | .map param =>
          if isHeader param then
            match Entries.get param "name" with
            | .str name =>
                if name = "" then throw (.namelessHeader (Value.map param).display)
                else
                  let text ← textOrPlaceholder settings (← exampleOf settings document param)
                  requiredHeaders settings document (putHeader headers name text) rest
            | _ => throw (.namelessHeader (Value.map param).display)
          else requiredHeaders settings document headers rest
      | _ => requiredHeaders settings document headers rest

end Parameter

end ApiStubs
