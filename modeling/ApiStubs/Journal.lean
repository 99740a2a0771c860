import ApiStubs.Log
import ApiStubs.Value.Basic

/- What a program tells while it works, in order: records of its log, notices to the one who runs it, and
   data for whoever reads its output. Data is a text, or a value or table that a terminal draws in its
   own way. -/

set_option autoImplicit false

namespace ApiStubs.Journal

inductive Drawing where
  | value (v : Value)
  | table (headers : List String) (rows : List (List String)) (title : Option String)
deriving DecidableEq

inductive Entry where
  | record (r : Log.Record)
  | notice (text : String)
  | data (text : String)
  | drawing (d : Drawing)
deriving DecidableEq

def Entry.dataText : Entry → String
  | .data text => text
  | _ => ""

def Entry.noticeText (least : Nat) : Entry → String
  | .notice text => text
  | .record r => if least ≤ r.level.weight then r.line ++ "\n" else ""
  | _ => ""

def Entry.isDrawing : Entry → Bool
  | .drawing _ => true
  | _ => false

def Entry.record? : Entry → Option Log.Record
  | .record r => some r
  | _ => none

-- The data as text, without what is drawn.
def output (entries : List Entry) : String :=
  String.join (entries.map Entry.dataText)

def notices (least : Nat) (entries : List Entry) : String :=
  String.join (entries.map (Entry.noticeText least))

def records (entries : List Entry) : List Log.Record :=
  entries.filterMap Entry.record?

end ApiStubs.Journal
