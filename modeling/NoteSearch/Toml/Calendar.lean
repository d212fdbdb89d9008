import NoteSearch.Toml.Number

/-!
# Dates and times in TOML

A date is a year, a month and a day, in digits of fixed number; a time follows it after a `T` or a space,
and may be followed by the offset of its time zone. A time may also stand alone. Where what follows a date
is no time, the date stands alone.

What is written like a date has to be a day of the calendar, which starts with the year 1.
-/

namespace NoteSearch.Toml

open NoteSearch.Config (Value)

/-- The number that `count` decimal digits at the start of a text spell, and the text after them. -/
def fixedDigits? : Nat → List Char → Option (List Char × List Char)
  | 0, cs => some ([], cs)
  | _ + 1, [] => none
  | count + 1, c :: cs =>
    if c.isDigit then (fixedDigits? count cs).map fun (ds, rest) => (c :: ds, rest) else none

/-- A number of `count` digits that lies between two bounds, and the text after it. -/
def field? (count least most : Nat) (cs : List Char) : Option (Nat × List Char) := do
  let (ds, rest) ← fixedDigits? count cs
  let n := ds.foldl (fun n c => 10 * n + (c.toNat - '0'.toNat)) 0
  if least ≤ n && n ≤ most then return (n, rest) else none

/-- The text after a character that has to be there. -/
def after? (c : Char) : List Char → Option (List Char)
  | [] => none
  | d :: cs => if d == c then some cs else none

/-- The text after the fraction of a second, if there is one. -/
def skipSecondFraction : List Char → List Char
  | '.' :: c :: cs => if c.isDigit then cs.dropWhile Char.isDigit else '.' :: c :: cs
  | cs => cs

/-- The text after a time of day. -/
def afterTime? (cs : List Char) : Option (List Char) := do
  let (_, cs) ← field? 2 0 23 cs
  let (_, cs) ← field? 2 0 59 (← after? ':' cs)
  let (_, cs) ← field? 2 0 59 (← after? ':' cs)
  return skipSecondFraction cs

/-- The text after an offset of hours and minutes. -/
def afterOffset? (cs : List Char) : Option (List Char) := do
  let (_, cs) ← field? 2 0 23 cs
  let (_, cs) ← field? 2 0 59 (← after? ':' cs)
  return cs

/-- The text after the time zone, if there is one. -/
def skipZone : List Char → List Char
  | c :: cs =>
    if c == 'Z' || c == 'z' then cs
    else if c == '+' || c == '-' then (afterOffset? cs).getD (c :: cs)
    else c :: cs
  | [] => []

/-- The text after the time that follows a date, if one does. -/
def skipTimeOfDate : List Char → List Char
  | c :: cs =>
    if c == 'T' || c == 't' || c == ' ' then
      match afterTime? cs with
      | some rest => skipZone rest
      | none => c :: cs
    else c :: cs
  | [] => []

/-- Whether a year has a 29th of February. -/
def isLeapYear (year : Nat) : Bool :=
  year % 4 == 0 && (year % 100 != 0 || year % 400 == 0)

/-- The number of days of a month. -/
def daysIn (year month : Nat) : Nat :=
  if month == 2 then if isLeapYear year then 29 else 28
  else if month == 4 || month == 6 || month == 9 || month == 11 then 30
  else 31

/-- A date with what belongs to it, when there is one at the start. -/
def date? (cs : List Char) : Option (Reading Value) := do
  let (year, rest) ← field? 4 0 9999 cs
  let (month, rest) ← field? 2 1 12 (← after? '-' rest)
  let (day, rest) ← field? 2 1 31 (← after? '-' rest)
  if 1 ≤ year && day ≤ daysIn year month then
    let rest := skipTimeOfDate rest
    return .ok (.moment (readBefore cs rest), rest)
  else return .error .malformed

/-- A time of day, when there is one at the start. -/
def time? (cs : List Char) : Option (Reading Value) :=
  (afterTime? cs).map fun rest => .ok (.moment (readBefore cs rest), rest)

end NoteSearch.Toml
