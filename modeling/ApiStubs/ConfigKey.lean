import ApiStubs.Configuration
import ApiStubs.Text.Case

/- Changing one value of a configuration. A key is a list of names with points between them; all but the
   last lead from mapping to mapping, and the last names a value that is no mapping. The new value is
   written as text and takes the kind of the present one. -/

set_option autoImplicit false

namespace ApiStubs.ConfigKey

open ApiStubs.Decimal ApiStubs.Text

def names (key : String) : List String :=
  (splitOn '.' key.toList).map String.ofList

-- A text as a value of the kind of `current`.
def coerce (key text : String) (current : Value) : Except Error Value :=
  if lower text = "null" then .ok .null
  else
    match current with
    | .bool _ => .ok (.bool (["true", "1", "yes"].contains (lower text)))
    | .int _ =>
        match integer? text with
        | some n => .ok (.int n)
        | none => .error (.integerExpected key text)
    | _ => .ok (.str text)

-- Changes the value that the names lead to; the changed entries and the new value.
def changeAt (key text : String) : List String → Entries → Except Error (Entries × Value)
  | [], _ => .error (.unknownKey key)
  | [field], entries =>
      match Entries.get? entries field with
      | none => .error (.unknownKey key)
      | some (.map _) => .error (.unknownKey key)
      | some current =>
          match coerce key text current with
          | .error e => .error e
          | .ok v => .ok (Entries.put entries (.str field) v, v)
  | part :: rest, entries =>
      match Entries.get? entries part with
      | some (.map inner) =>
          match changeAt key text rest inner with
          | .error e => .error e
          | .ok (changed, v) => .ok (Entries.put entries (.str part) (.map changed), v)
      | _ => .error (.invalidKey key)

def change (key text : String) (entries : Entries) : Except Error (Entries × Value) :=
  changeAt key text (names key) entries

-- Changes one value of a configuration. The whole has to pass the checks again.
def set (key text : String) (config : Config) : Except Error (Config × Value) :=
  match change key text config.toEntries with
  | .error e => .error e
  | .ok (changed, v) =>
      match Config.ofEntries changed with
      | .ok config => .ok (config, v)
      | .error found => .error (.invalid found)

end ApiStubs.ConfigKey
