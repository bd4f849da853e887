/-!
# Dates and times

A date is `YYYY-MM-DD` and names a day of the calendar. A timestamp is a date, a separator and a
time with seconds and an offset. Only ASCII digits count, and a leap second may stand anywhere.
-/

namespace JsonSchema.Timestamp

def isDigit (c : Char) : Bool := '0' ≤ c && c ≤ '9'

/-- The number written by exactly `count` digits, and what follows them. -/
def number? (count : Nat) (cs : List Char) : Option (Nat × List Char) :=
  let ds := cs.take count
  if ds.length = count && ds.all isDigit then
    some (ds.foldl (fun n c => 10 * n + (c.toNat - '0'.toNat)) 0, cs.drop count)
  else none

/-- What follows a character that has to come next. -/
def expect? (c : Char) (cs : List Char) : Option (List Char) :=
  match cs with
  | d :: rest => if d = c then some rest else none
  | [] => none

def isLeapYear (year : Nat) : Bool := year % 4 = 0 && (year % 100 ≠ 0 || year % 400 = 0)

def daysInMonth (year month : Nat) : Nat :=
  if month = 2 then (if isLeapYear year then 29 else 28)
  else if [4, 6, 9, 11].contains month then 30
  else 31

/-- Whether a day is in the calendar. -/
def isDay (year month day : Nat) : Bool :=
  1 ≤ month && month ≤ 12 && 1 ≤ day && day ≤ daysInMonth year month

/-- What follows a date. -/
def date? (cs : List Char) : Option (List Char) := do
  let (year, cs) ← number? 4 cs
  let cs ← expect? '-' cs
  let (month, cs) ← number? 2 cs
  let cs ← expect? '-' cs
  let (day, cs) ← number? 2 cs
  if isDay year month day then some cs else none

/-- What follows a fraction of a second, which has at least one digit. -/
def fraction? (cs : List Char) : Option (List Char) :=
  match cs with
  | '.' :: d :: rest => if isDigit d then some (rest.dropWhile isDigit) else none
  | '.' :: [] => none
  | cs => some cs

/-- What follows an offset: `Z`, or a sign with hours and minutes. -/
def offset? (cs : List Char) : Option (List Char) :=
  match cs with
  | [] => none
  | sign :: rest =>
    if sign = 'Z' || sign = 'z' then some rest
    else if sign = '+' || sign = '-' || sign = '\u2212' then do
      let (hours, rest) ← number? 2 rest
      let rest ← expect? ':' rest
      let (minutes, rest) ← number? 2 rest
      if hours ≤ 23 && minutes ≤ 59 then some rest else none
    else none

/-- What follows a time of day with its offset. -/
def time? (cs : List Char) : Option (List Char) := do
  let (hour, cs) ← number? 2 cs
  let cs ← expect? ':' cs
  let (minute, cs) ← number? 2 cs
  let cs ← expect? ':' cs
  let (second, cs) ← number? 2 cs
  let cs ← fraction? cs
  let cs ← offset? cs
  if hour ≤ 23 && minute ≤ 59 && second ≤ 60 then some cs else none

/-- Whether a text is a date. -/
def isDate (text : String) : Bool := date? text.toList == some []

/-- Whether a text is a time with an offset. -/
def isTime (text : String) : Bool := time? text.toList == some []

/-- Whether a text is a date and a time, between them `T` of either case or a blank. -/
def isTimestamp (text : String) : Bool :=
  match date? text.toList with
  | some (separator :: rest) => ['T', 't', ' '].contains separator && time? rest == some []
  | _ => false

end JsonSchema.Timestamp
