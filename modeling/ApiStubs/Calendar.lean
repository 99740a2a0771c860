import ApiStubs.Decimal.Digits

/- Dates of the Gregorian calendar and times of day, with an optional offset from universal time,
   their standard texts and their texts under a pattern of `%` directives. -/

set_option autoImplicit false

namespace ApiStubs

open ApiStubs.Decimal

structure Date where
  year : Nat
  month : Nat
  day : Nat
deriving DecidableEq, Repr, Inhabited

-- `offset` counts minutes east of universal time; without one the moment is a local one.
structure DateTime where
  date : Date
  hour : Nat
  minute : Nat
  second : Nat
  micro : Nat
  offset : Option Int
deriving DecidableEq, Repr, Inhabited

namespace Date

def isLeapYear (year : Nat) : Bool :=
  year % 4 == 0 && (year % 100 != 0 || year % 400 == 0)

def monthLength (year month : Nat) : Nat :=
  match month with
  | 2 => if isLeapYear year then 29 else 28
  | 4 | 6 | 9 | 11 => 30
  | _ => 31

def isValid (d : Date) : Bool :=
  1 ≤ d.year && d.year ≤ 9999 && 1 ≤ d.month && d.month ≤ 12 &&
    1 ≤ d.day && d.day ≤ monthLength d.year d.month

-- Days of the year before `d`.
def dayOfYear (d : Date) : Nat :=
  (List.range (d.month - 1)).foldl (fun days m => days + monthLength d.year (m + 1)) d.day

-- Days since the eve of the first day of the year 1.
def ordinal (d : Date) : Nat :=
  let past := d.year - 1
  past * 365 + past / 4 - past / 100 + past / 400 + d.dayOfYear

-- Sunday is 0.
def weekday (d : Date) : Nat :=
  d.ordinal % 7

-- Monday is 1 and Sunday is 7.
def isoWeekday (d : Date) : Nat :=
  if d.weekday = 0 then 7 else d.weekday

-- The week of the year, where weeks begin `first` days behind Sunday; the days in front of the first one are in
-- week 0.
def weekFrom (first : Nat) (d : Date) : Nat :=
  (d.dayOfYear + 6 - (d.weekday + 7 - first) % 7) / 7

def isoWeeks (year : Nat) : Nat :=
  let opening := (Date.mk year 1 1).isoWeekday
  if opening = 4 || (opening = 3 && isLeapYear year) then 53 else 52

-- The year and the week that the Thursday of the same week, from Monday on, lies in.
def isoWeek (d : Date) : Nat × Nat :=
  let week := (d.dayOfYear + 10 - d.isoWeekday) / 7
  if week = 0 then (d.year - 1, isoWeeks (d.year - 1))
  else if isoWeeks d.year < week then (d.year + 1, 1)
  else (d.year, week)

def isoText (d : Date) : String :=
  paddedText 4 d.year ++ "-" ++ paddedText 2 d.month ++ "-" ++ paddedText 2 d.day

end Date

namespace DateTime

def minutesPerDay : Int := 1440

def isValid (t : DateTime) : Bool :=
  t.date.isValid && t.hour < 24 && t.minute < 60 && t.second < 60 && t.micro < 1000000 &&
    match t.offset with
    | none => true
    | some minutes => -minutesPerDay < minutes && minutes < minutesPerDay

def offsetText (minutes : Int) : String :=
  let n := minutes.natAbs
  (if minutes < 0 then "-" else "+") ++ paddedText 2 (n / 60) ++ ":" ++ paddedText 2 (n % 60)

def isoText (separator : String) (t : DateTime) : String :=
  t.date.isoText ++ separator ++ paddedText 2 t.hour ++ ":" ++ paddedText 2 t.minute ++ ":" ++
    paddedText 2 t.second ++
    (if t.micro = 0 then "" else "." ++ paddedText 6 t.micro) ++
    (match t.offset with
      | none => ""
      | some minutes => offsetText minutes)

-- Microseconds since the eve of the year 1, in universal time where an offset is known.
def instant (t : DateTime) : Int :=
  let minutes : Int := ((t.date.ordinal * 24 + t.hour) * 60 + t.minute : Nat)
  ((minutes - t.offset.getD 0) * 60 + t.second) * 1000000 + t.micro

-- Two moments are the same when both are local or both are not, and their instants agree.
def sameMoment (t u : DateTime) : Bool :=
  t.offset.isSome == u.offset.isSome && t.instant == u.instant

def monthNames : List String :=
  ["January", "February", "March", "April", "May", "June", "July", "August", "September",
   "October", "November", "December"]

def weekdayNames : List String :=
  ["Sunday", "Monday", "Tuesday", "Wednesday", "Thursday", "Friday", "Saturday"]

def monthName (t : DateTime) : String :=
  monthNames.getD (t.date.month - 1) ""

def weekdayName (t : DateTime) : String :=
  weekdayNames.getD t.date.weekday ""

def shortName (name : String) : String :=
  String.ofList (name.toList.take 3)

def clockHour (hour : Nat) : Nat :=
  if hour % 12 = 0 then 12 else hour % 12

def blankPadded (width n : Nat) : String :=
  String.ofList (List.replicate (width - (digits n).length) ' ' ++ digits n)

def clockText (t : DateTime) : String :=
  paddedText 2 t.hour ++ ":" ++ paddedText 2 t.minute ++ ":" ++ paddedText 2 t.second

def slashText (t : DateTime) : String :=
  paddedText 2 t.date.month ++ "/" ++ paddedText 2 t.date.day ++ "/" ++ paddedText 2 (t.date.year % 100)

def halfDay (t : DateTime) : String :=
  if t.hour < 12 then "AM" else "PM"

-- What one directive stands for; `none` for a letter that is no directive.
def directive (t : DateTime) : Char → Option String
  | 'Y' => some (natText t.date.year)
  | 'y' => some (paddedText 2 (t.date.year % 100))
  | 'C' => some (paddedText 2 (t.date.year / 100))
  | 'm' => some (paddedText 2 t.date.month)
  | 'd' => some (paddedText 2 t.date.day)
  | 'e' => some (blankPadded 2 t.date.day)
  | 'H' => some (paddedText 2 t.hour)
  | 'I' => some (paddedText 2 (clockHour t.hour))
  | 'k' => some (blankPadded 2 t.hour)
  | 'l' => some (blankPadded 2 (clockHour t.hour))
  | 'M' => some (paddedText 2 t.minute)
  | 'S' => some (paddedText 2 t.second)
  | 'f' => some (paddedText 6 t.micro)
  | 'p' => some t.halfDay
  | 'P' => some (if t.hour < 12 then "am" else "pm")
  | 'j' => some (paddedText 3 t.date.dayOfYear)
  | 'b' => some (shortName t.monthName)
  | 'h' => some (shortName t.monthName)
  | 'B' => some t.monthName
  | 'a' => some (shortName t.weekdayName)
  | 'A' => some t.weekdayName
  | 'w' => some (natText t.date.weekday)
  | 'u' => some (natText t.date.isoWeekday)
  | 'U' => some (paddedText 2 (t.date.weekFrom 0))
  | 'W' => some (paddedText 2 (t.date.weekFrom 1))
  | 'G' => some (natText t.date.isoWeek.1)
  | 'g' => some (paddedText 2 (t.date.isoWeek.1 % 100))
  | 'V' => some (paddedText 2 t.date.isoWeek.2)
  | 'F' => some t.date.isoText
  | 'T' => some t.clockText
  | 'X' => some t.clockText
  | 'D' => some t.slashText
  | 'x' => some t.slashText
  | 'R' => some (paddedText 2 t.hour ++ ":" ++ paddedText 2 t.minute)
  | 'r' => some (paddedText 2 (clockHour t.hour) ++ ":" ++ paddedText 2 t.minute ++ ":" ++
      paddedText 2 t.second ++ " " ++ t.halfDay)
  | 'c' => some (shortName t.weekdayName ++ " " ++ shortName t.monthName ++ " " ++
      blankPadded 2 t.date.day ++ " " ++ t.clockText ++ " " ++ natText t.date.year)
  | 'n' => some "\n"
  | 't' => some "\t"
  | 'z' => some ""
  | 'Z' => some ""
  | '%' => some "%"
  | _ => none

def fill (t : DateTime) : List Char → List Char
  | '%' :: letter :: rest =>
      match t.directive letter with
      | some form => form.toList ++ fill t rest
      | none => '%' :: letter :: fill t rest
  | c :: rest => c :: fill t rest
  | [] => []

def format (t : DateTime) (pattern : String) : String :=
  String.ofList (t.fill pattern.toList)

end DateTime

end ApiStubs
