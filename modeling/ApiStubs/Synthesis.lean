import ApiStubs.Draw
import ApiStubs.Pointer

/- Example values for schemas. A declared example is taken as it is; a reference stands for what it
   refers to; an object gets every declared property, an array a fixed number of items, and any other
   schema a draw. Nesting through properties, items and references is counted together and bounded. -/

set_option autoImplicit false

namespace ApiStubs

-- A computation that draws: its result and the generator after its draws, or a failure.
abbrev Drawing (α : Type) := StateT Generator (Except Error) α

namespace Schema

-- The type of a schema: of a list of types the first that is not `null`.
def typeOf (schema : Entries) : Value :=
  match schema.get "type" with
  | .list types => (types.find? fun t => t != .str "null").getD .null
  | t => t

def isObject (schema : Entries) : Bool :=
  typeOf schema == .str "object" || (typeOf schema == .null && schema.contains "properties")

def isArray (schema : Entries) : Bool :=
  typeOf schema == .str "array"

-- The members of a listing; a text lists its characters and a mapping its keys.
def membersOf : Value → Except Error (List Value)
  | .list items | .set items | .tuple items => .ok items
  | .map entries => .ok (entries.map (·.1))
  | .str s => .ok (s.toList.map fun c => .str (String.ofList [c]))
  | .bytes data => .ok (data.toList.map fun b => .int b.toNat)
  | _ => .error (.defect .notIterable)

inductive Kind where
  | identifier
  | date
  | dateTime
  | sentence
  | number
  | truth
  | nothing
deriving DecidableEq, Repr

-- A format stands before a plain type.
def kindOf (schema : Entries) : Kind :=
  let type := typeOf schema
  let format := schema.get "format"
  if format == .str "uuid" then .identifier
  else if type == .str "date" || format == .str "date" then .date
  else if [Value.str "datetime", .str "date-time"].contains type ||
      [Value.str "datetime", .str "date-time"].contains format then .dateTime
  else if type == .str "string" then .sentence
  else if type == .str "integer" || type == .str "number" then .number
  else if type == .str "boolean" then .truth
  else .nothing

def Kind.value (settings : Settings) (g : Generator) : Kind → Value
  | .identifier => .str g.identifier
  | .date => .str (g.momentText settings.dateFormat)
  | .dateTime => .str (g.momentText settings.dateTimeFormat)
  | .sentence => .str g.sentence
  | .number => .int (g.number 0 10000)
  | .truth => .bool g.coin
  | .nothing => .null

-- A draw for a schema without parts: a member of its enumeration, or a value of its kind. Nothing is drawn
-- for a schema of no known kind.
def primitive (settings : Settings) (schema : Entries) (g : Generator) :
    Except Error (Value × Generator) :=
  if (schema.get "enum").isTrue then
    match membersOf (schema.get "enum") with
    | .ok (first :: rest) => .ok (g.element first rest, g.advance)
    | .ok [] => .ok (.null, g)
    | .error e => .error e
  else
    match kindOf schema with
    | .nothing => .ok (.null, g)
    | kind => .ok (kind.value settings g, g.advance)

-- The declared properties; an empty value counts as none declared.
def propertiesOf (schema : Entries) (location : String) : Except Error Entries :=
  match schema.get "properties" with
  | .map entries => .ok entries
  | v =>
      if v.isTrue then
        .error (.wrongShape .object (Pointer.extendText location "properties") v.kindName)
      else .ok []

def itemsOf (schema : Entries) : Value :=
  let items := schema.get "items"
  if items.isTrue then items else .map []

def exampleOf : Value → Option Value
  | .map entries => Entries.get? entries "example"
  | _ => none

def propertyLocation (location : String) (name : Value) : String :=
  Pointer.extendText (Pointer.extendText location "properties") name.display

-- `levels` counts the levels of nesting that are left.
def synthesizeWithin (settings : Settings) (document : Value) :
    Nat → String → Option Value → Value → Drawing Value
  | 0, location, _, _ => throw (.schemaDepth settings.maxSchemaDepth (some location))
  | _ + 1, _, some declared, _ => pure declared
  | levels + 1, location, none, .map schema =>
      match Entries.get? schema "$ref" with
      | some pointer => do
          let target ← Value.resolve document settings.maxReferenceDepth 0 pointer
          synthesizeWithin settings document levels pointer.display none target
      | none =>
          if isObject schema then do
            let properties ← propertiesOf schema location
            let entries ← properties.mapM fun property => do
              let value ← synthesizeWithin settings document levels
                (propertyLocation location property.1) (exampleOf property.2) property.2
              return (property.1, value)
            return .map entries
          else if isArray schema then do
            let items ← (List.replicate settings.arrayCardinality.toNat (itemsOf schema)).mapM
              (synthesizeWithin settings document levels (Pointer.extendText location "items") none)
            return .list items
          else primitive settings schema
  | _ + 1, _, none, _ => pure .null

-- The value for a schema `depth` levels down.
def synthesize (settings : Settings) (document : Value) (depth : Int) (location : String)
    (declared : Option Value) (schema : Value) : Drawing Value :=
  synthesizeWithin settings document (settings.maxSchemaDepth + 1 - depth).toNat location declared schema

end Schema

end ApiStubs
