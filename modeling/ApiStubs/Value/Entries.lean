import ApiStubs.Value.Basic

/- The entries of a mapping. Two keys are one key when they are the same number, text, date, moment
   or run of bytes; writing under a key that is there keeps the key and its place. -/

set_option autoImplicit false

namespace ApiStubs

open ApiStubs.Decimal

namespace Value

def asInt? : Value → Option Int
  | .bool b => some (if b then 1 else 0)
  | .int n => some n
  | _ => none

def sameNumber (a b : Value) : Bool :=
  match asInt? a, asInt? b with
  | some m, some n => m == n
  | some m, none =>
      match b with
      | .float y => y.toInt? == some m
      | _ => false
  | none, some n =>
      match a with
      | .float x => x.toInt? == some n
      | _ => false
  | none, none =>
      match a, b with
      | .float x, .float y => x.sameNumber y
      | _, _ => false

mutual

def sameKey : Value → Value → Bool
  | .null, .null => true
  | .str s, .str t => s == t
  | .date d, .date e => d == e
  | .dateTime t, .dateTime u => t.sameMoment u
  | .bytes x, .bytes y => decide (x = y)
  | .tuple xs, .tuple ys => sameKeys xs ys
  | a, b => sameNumber a b

def sameKeys : List Value → List Value → Bool
  | [], [] => true
  | x :: xs, y :: ys => sameKey x y && sameKeys xs ys
  | _, _ => false

end

-- Only values that cannot change may be keys.
def isKey : Value → Bool
  | .list _ | .map _ | .set _ => false
  | _ => true

-- Absent, zero and empty values count as false.
def isTrue : Value → Bool
  | .null => false
  | .bool b => b
  | .int n => n != 0
  | .float x => !x.isZero
  | .str s => s != ""
  | .list items | .set items | .tuple items => !items.isEmpty
  | .map entries => !entries.isEmpty
  | .bytes data => data.size != 0
  | .date _ | .dateTime _ => true

end Value

namespace Entries

def get? (es : Entries) (name : String) : Option Value :=
  (es.find? fun e => e.1 == .str name).map (·.2)

def contains (es : Entries) (name : String) : Bool :=
  es.any fun e => e.1 == .str name

def get (es : Entries) (name : String) : Value :=
  (es.get? name).getD .null

def put : Entries → Value → Value → Entries
  | [], key, value => [(key, value)]
  | (k, v) :: rest, key, value =>
      if Value.sameKey k key then (k, value) :: rest else (k, v) :: put rest key value

def putAll (es more : Entries) : Entries :=
  more.foldl (fun acc e => acc.put e.1 e.2) es

def names (es : Entries) : List Value :=
  es.map (·.1)

end Entries

end ApiStubs
