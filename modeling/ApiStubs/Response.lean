import ApiStubs.Parameter
import ApiStubs.Synthesis
import ApiStubs.Text.Case

/- Responses: the status that a response key names, the headers that a response declares and its body.
   The body is the first named example, else a declared example or what it refers to, else a value for
   the schema. -/

set_option autoImplicit false

namespace ApiStubs

open ApiStubs.Decimal ApiStubs.Text

namespace Shape

def objectAt (location : String) : Value → Except Error Entries
  | .null => .ok []
  | .map entries => .ok entries
  | v => .error (.wrongShape .object location v.kindName)

def listAt (location : String) : Value → Except Error (List Value)
  | .null => .ok []
  | .list items => .ok items
  | v => .error (.wrongShape .list location v.kindName)

end Shape

namespace Response

-- The first digit of a key such as `4XX`.
def rangeDigit? (cs : List Char) : Option Nat :=
  match cs with
  | [d, x, y] =>
      if '1' ≤ d ∧ d ≤ '5' ∧ x.toUpper = 'X' ∧ y.toUpper = 'X' then some (d.toNat - 0x30) else none
  | _ => none

def statusOf (settings : Settings) (key : String) : Except Error Int :=
  let cs := trim isBlank key.toList
  if cs.map Char.toLower = "default".toList then .ok settings.defaultStatus
  else
    match rangeDigit? cs with
    | some d => .ok (d * 100)
    | none =>
        match readInteger 10 cs with
        | some n => .ok n
        | none => .error (.statusKey key)

def headerExample (settings : Settings) (document : Value) (header : Value) :
    Except Error (Option Value) :=
  match header with
  | .map param => Parameter.exampleOf settings document param
  | _ => .ok none

def addHeaders (settings : Settings) (document : Value) :
    Parameter.Headers → Entries → Except Error Parameter.Headers
  | headers, [] => .ok headers
  | headers, (name, raw) :: rest => do
      let header ← Value.resolved document settings.maxReferenceDepth raw
      let declared ← headerExample settings document header
      let text ← Parameter.textOrPlaceholder settings declared
      addHeaders settings document (Parameter.putHeader headers name.display text) rest

def headersOf (settings : Settings) (document : Value) (location : String) (response : Entries) :
    Except Error Parameter.Headers := do
  let declared ← Shape.objectAt (Pointer.extendText location "headers") (response.get "headers")
  addHeaders settings document [] declared

def valueIn : Value → Option Value
  | .map entries => Entries.get? entries "value"
  | _ => none

def bodyOfExamples (settings : Settings) (document : Value) (first : Value) : Except Error Value := do
  match ← Value.resolved document settings.maxReferenceDepth first with
  | .map entries => return Entries.get entries "value"
  | _ => return .null

def bodyOfContent (settings : Settings) (document : Value) (location : String) (content : Entries) :
    Drawing Value :=
  match content.get "examples" with
  | .map ((_, first) :: _) => do bodyOfExamples settings document first
  | _ =>
      let declared := content.get? "example"
      match declared.bind Value.reference? with
      | some pointer => do
          let target ← Value.resolve document settings.maxReferenceDepth 0 pointer
          match valueIn target with
          | some v => return v
          | none => Schema.synthesize settings document 0 pointer.display none target
      | none =>
          Schema.synthesize settings document 0 (Pointer.extendText location "schema") declared
            (content.get "schema")

def bodyOf (settings : Settings) (document : Value) (location : String) (response : Entries) :
    Drawing Value := do
  let contentLocation := Pointer.extendText location "content"
  let mediaLocation := Pointer.extendText contentLocation settings.mediaType
  let contents ← Shape.objectAt contentLocation (response.get "content")
  match contents.get settings.mediaType with
  | .null => return .null
  | content => do
      let content ← Shape.objectAt mediaLocation content
      bodyOfContent settings document mediaLocation content

end Response

end ApiStubs
