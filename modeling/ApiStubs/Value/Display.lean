import ApiStubs.Value.Basic
import ApiStubs.Decimal.Shortest
import ApiStubs.Text.Quoted

/- How values read in messages. A text stands for itself at the top and between quotes inside a
   container; every other value is written as a literal. -/

set_option autoImplicit false

namespace ApiStubs

open ApiStubs.Decimal ApiStubs.Text

namespace Value

def kindName : Value → String
  | .null => "NoneType"
  | .bool _ => "bool"
  | .int _ => "int"
  | .float _ => "float"
  | .str _ => "str"
  | .list _ => "list"
  | .map _ => "dict"
  | .date _ => "date"
  | .dateTime _ => "datetime"
  | .bytes _ => "bytes"
  | .set _ => "set"
  | .tuple _ => "tuple"

def commaSeparated (parts : List String) : String :=
  String.intercalate ", " parts

def dateLiteral (d : Date) : String :=
  "datetime.date(" ++ commaSeparated (List.map natText [d.year, d.month, d.day]) ++ ")"

def offsetLiteral (minutes : Int) : String :=
  if minutes = 0 then "datetime.timezone.utc"
  else
    let days := minutes.fdiv DateTime.minutesPerDay
    let seconds := minutes.fmod DateTime.minutesPerDay * 60
    let parts :=
      (if days = 0 then [] else ["days=" ++ intText days]) ++
        (if seconds = 0 then [] else ["seconds=" ++ intText seconds])
    "datetime.timezone(datetime.timedelta(" ++ commaSeparated parts ++ "))"

def dateTimeLiteral (t : DateTime) : String :=
  let clock :=
    if t.micro ≠ 0 then [t.hour, t.minute, t.second, t.micro]
    else if t.second ≠ 0 then [t.hour, t.minute, t.second]
    else [t.hour, t.minute]
  let parts := List.map natText ([t.date.year, t.date.month, t.date.day] ++ clock)
  let zone :=
    match t.offset with
    | none => []
    | some minutes => ["tzinfo=" ++ offsetLiteral minutes]
  "datetime.datetime(" ++ commaSeparated (parts ++ zone) ++ ")"

def boolText (b : Bool) : String :=
  if b then "True" else "False"

mutual

def literal : Value → String
  | .null => "None"
  | .bool b => boolText b
  | .int n => intText n
  | .float x => x.text
  | .str s => quoted s
  | .list items => "[" ++ commaSeparated (literals items) ++ "]"
  | .map entries => "\x7b" ++ commaSeparated (entryLiterals entries) ++ "\x7d"
  | .date d => dateLiteral d
  | .dateTime t => dateTimeLiteral t
  | .bytes data => quotedBytes data
  | .set members =>
      match members with
      | [] => "set()"
      | members => "\x7b" ++ commaSeparated (literals members) ++ "\x7d"
  | .tuple items =>
      match items with
      | [x] => "(" ++ literal x ++ ",)"
      | items => "(" ++ commaSeparated (literals items) ++ ")"

def literals : List Value → List String
  | [] => []
  | x :: xs => literal x :: literals xs

def entryLiterals : List (Value × Value) → List String
  | [] => []
  | (k, v) :: es => (literal k ++ ": " ++ literal v) :: entryLiterals es

end

def display : Value → String
  | .str s => s
  | .date d => d.isoText
  | .dateTime t => t.isoText " "
  | v => literal v

end Value

end ApiStubs
