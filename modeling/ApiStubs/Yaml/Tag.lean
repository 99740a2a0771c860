/- Tags: what kind of value a node is. A plain scalar without a tag gets one from the form of its
   text. -/

set_option autoImplicit false

namespace ApiStubs.Yaml

inductive Tag where
  | null
  | bool
  | int
  | float
  | str
  | binary
  | timestamp
  | seq
  | map
  | set
  | omap
  | pairs
  | merge
  | value
  | other (uri : String)
deriving DecidableEq, Repr

namespace Tag

def stem : String := "tag:yaml.org,2002:"

def known : List (String × Tag) :=
  [("null", .null), ("bool", .bool), ("int", .int), ("float", .float), ("str", .str),
   ("binary", .binary), ("timestamp", .timestamp), ("seq", .seq), ("map", .map), ("set", .set),
   ("omap", .omap), ("pairs", .pairs), ("merge", .merge), ("value", .value)]

def ofUri (uri : String) : Tag :=
  match known.find? fun e => uri == stem ++ e.1 with
  | some (_, tag) => tag
  | none => .other uri

def digit (c : Char) : Bool := c.isDigit

def digitOrBar (c : Char) : Bool := c.isDigit || c == '_'

def dropSign : List Char → List Char
  | '-' :: rest => rest
  | '+' :: rest => rest
  | cs => cs

-- A digit and then digits and bars: what follows them.
def afterNumber : List Char → Option (List Char)
  | c :: rest => if digit c then some (rest.dropWhile digitOrBar) else none
  | [] => none

-- One or more groups of a colon and at most two digits, up to 59: what follows them.
def afterSixties : Nat → Bool → List Char → Option (List Char)
  | 0, _, _ => none
  | limit + 1, found, cs =>
      match cs with
      | ':' :: a :: b :: rest =>
          if '0' ≤ a && a ≤ '5' && digit b then afterSixties limit true rest
          else if digit a then afterSixties limit true (b :: rest)
          else if found then some cs else none
      | [':', a] => if digit a then some [] else if found then some cs else none
      | _ => if found then some cs else none

def isExponent (cs : List Char) : Bool :=
  match cs with
  | [] => true
  | e :: sign :: d :: rest =>
      (e == 'e' || e == 'E') && (sign == '-' || sign == '+') && digit d && rest.all digit
  | _ => false

def isFloatName (cs : List Char) : Bool :=
  [".inf", ".Inf", ".INF"].contains (String.ofList (dropSign cs)) ||
    [".nan", ".NaN", ".NAN"].contains (String.ofList cs)

def isPointed (cs : List Char) : Bool :=
  match afterNumber (dropSign cs) with
  | some ('.' :: rest) => isExponent (rest.dropWhile digitOrBar)
  | _ =>
      match cs with
      | '.' :: d :: rest => digit d && isExponent (rest.dropWhile digitOrBar)
      | _ => false

def isSixtiesFloat (cs : List Char) : Bool :=
  match afterNumber (dropSign cs) with
  | none => false
  | some rest =>
      match afterSixties rest.length false rest with
      | some ('.' :: places) => places.all digitOrBar
      | _ => false

def isFloat (cs : List Char) : Bool :=
  isPointed cs || isSixtiesFloat cs || isFloatName cs

def manyOf (p : Char → Bool) (cs : List Char) : Bool :=
  !cs.isEmpty && cs.all p

def isHexOrBar (c : Char) : Bool :=
  c.isDigit || ('a' ≤ c && c ≤ 'f') || ('A' ≤ c && c ≤ 'F') || c == '_'

def isSixtiesInt (cs : List Char) : Bool :=
  match cs with
  | d :: rest =>
      '1' ≤ d && d ≤ '9' &&
        (let tail := rest.dropWhile digitOrBar
         afterSixties (tail.length + 1) false tail == some [])
  | [] => false

def isInt (cs : List Char) : Bool :=
  match dropSign cs with
  | ['0'] => true
  | '0' :: 'b' :: rest => manyOf (fun c => c == '0' || c == '1' || c == '_') rest
  | '0' :: 'x' :: rest => manyOf isHexOrBar rest
  | '0' :: rest => manyOf (fun c => ('0' ≤ c && c ≤ '7') || c == '_') rest
  | d :: rest => ('1' ≤ d && d ≤ '9' && rest.all digitOrBar) || isSixtiesInt (d :: rest)
  | [] => false

def boolNames : List String :=
  ["yes", "Yes", "YES", "no", "No", "NO", "true", "True", "TRUE", "false", "False", "FALSE",
   "on", "On", "ON", "off", "Off", "OFF"]

def nullNames : List String :=
  ["", "~", "null", "Null", "NULL"]

structure Stamp where
  year : List Char
  month : List Char
  day : List Char
  clock : Option (List Char × List Char × List Char)
  fraction : List Char
  zone : Option (Bool × List Char × List Char)
  universal : Bool

def oneOrTwo : List Char → Option (List Char × List Char)
  | a :: b :: rest =>
      if digit a && digit b then some ([a, b], rest)
      else if digit a then some ([a], b :: rest)
      else none
  | [a] => if digit a then some ([a], []) else none
  | [] => none

def two : List Char → Option (List Char × List Char)
  | a :: b :: rest => if digit a && digit b then some ([a, b], rest) else none
  | _ => none

def after (mark : Char) : List Char → Option (List Char)
  | c :: rest => if c == mark then some rest else none
  | [] => none

def isGap (c : Char) : Bool := c == ' ' || c == '\t'

-- `T`, or blanks, between a date and a time.
def afterGap (cs : List Char) : Option (List Char) :=
  match cs with
  | c :: rest =>
      if c == 'T' || c == 't' then some rest
      else if isGap c then some (rest.dropWhile isGap)
      else none
  | [] => none

-- The zone at the end of a moment; nothing may follow it.
def zone? (cs : List Char) : Option (Option (Bool × List Char × List Char) × Bool) :=
  if cs.isEmpty then some (none, false)
  else
    match cs.dropWhile isGap with
    | ['Z'] => some (none, true)
    | sign :: rest =>
        if sign == '-' || sign == '+' then
          match oneOrTwo rest with
          | some (hour, []) => some (some (sign == '-', hour, []), false)
          | some (hour, ':' :: rest) =>
              match two rest with
              | some (minute, []) => some (some (sign == '-', hour, minute), false)
              | _ => none
          | _ => none
        else none
    | [] => none

def splitFraction : List Char → List Char × List Char
  | '.' :: rest => (rest.takeWhile digit, rest.dropWhile digit)
  | cs => ([], cs)

def clock? (cs : List Char) : Option ((List Char × List Char × List Char) × List Char) := do
  let (hour, rest) ← oneOrTwo (← afterGap cs)
  let (minute, rest) ← two (← after ':' rest)
  let (second, rest) ← two (← after ':' rest)
  return ((hour, minute, second), rest)

def stamp? (cs : List Char) : Option Stamp := do
  let year := cs.take 4
  if !(year.length == 4 && year.all digit) then none
  else
    let (month, rest) ← oneOrTwo (← after '-' (cs.drop 4))
    let (day, rest) ← oneOrTwo (← after '-' rest)
    if rest.isEmpty then return ⟨year, month, day, none, [], none, false⟩
    else
      let (clock, rest) ← clock? rest
      let (fraction, rest) := splitFraction rest
      let (zone, universal) ← zone? rest
      return ⟨year, month, day, some clock, fraction, zone, universal⟩

def isStamp (cs : List Char) : Bool :=
  match stamp? cs with
  | some s => s.clock.isSome || (s.month.length == 2 && s.day.length == 2)
  | none => false

def dropFinalFeed (cs : List Char) : List Char :=
  match cs.reverse with
  | '\n' :: rest => rest.reverse
  | _ => cs

def ofText (text : String) : Tag :=
  if text == "" then .null
  else
    let cs := dropFinalFeed text.toList
    let s := String.ofList cs
    if cs.isEmpty then .str
    else if boolNames.contains s then .bool
    else if isFloat cs then .float
    else if isInt cs then .int
    else if s == "<<" then .merge
    else if nullNames.contains s then .null
    else if isStamp cs then .timestamp
    else if s == "=" then .value
    else if ["!", "&", "*"].contains s then .other (stem ++ "yaml")
    else .str

end Tag

end ApiStubs.Yaml
