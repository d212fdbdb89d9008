import NoteSearch.Text.Decimal

/-!
# Points in time

When a note was created, changed and thrown away is kept to the microsecond, without a time zone. A
moment is stored as its calendar fields, since they are all that is ever shown of it; it is compared by
a single number that orders moments as the calendar does (`NoteSearch.Moment.rank`).
-/

namespace NoteSearch

open Text

/-- **A point in time**, as a date and a time of day. -/
structure Moment where
  /-- The year. -/
  year : Nat
  /-- The month, from 1 to 12. -/
  month : Nat
  /-- The day of the month, from 1. -/
  day : Nat
  /-- The hour, from 0 to 23. -/
  hour : Nat
  /-- The minute, from 0 to 59. -/
  minute : Nat
  /-- The second, from 0 to 59. -/
  second : Nat
  /-- The microsecond, from 0 to 999999. -/
  micro : Nat
  deriving DecidableEq, Repr, Inhabited

namespace Moment

/-- The start of the year 2024, which stands in where no moment is given. -/
def epoch : Moment :=
  ⟨2024, 1, 1, 0, 0, 0, 0⟩

/-- **The place of a moment in time.** The digits of all fields in a row: a later moment has the larger
number. -/
def rank (m : Moment) : Nat :=
  ((((((m.year * 100 + m.month) * 100 + m.day) * 100 + m.hour) * 100 + m.minute) * 100
    + m.second) * 1000000) + m.micro

/-! ### Writing -/

/-- The date of a moment. -/
def dateText (m : Moment) : List Char :=
  paddedNumeral 4 m.year ++ '-' :: paddedNumeral 2 m.month ++ '-' :: paddedNumeral 2 m.day

/-- The hour and the minute of a moment. -/
def clockText (m : Moment) : List Char :=
  paddedNumeral 2 m.hour ++ ':' :: paddedNumeral 2 m.minute

/-- **The full spelling of a moment**: date and time joined by a `T`, with six digits for a fraction of
a second that is not zero. -/
def text (m : Moment) : String :=
  let fraction := if m.micro = 0 then [] else '.' :: paddedNumeral 6 m.micro
  String.ofList
    (m.dateText ++ 'T' :: m.clockText ++ ':' :: paddedNumeral 2 m.second ++ fraction)

/-- The short spelling of a moment, to the minute, with the year as it is. -/
def shortText (m : Moment) : String :=
  String.ofList
    (numeral m.year ++ '-' :: paddedNumeral 2 m.month ++ '-' :: paddedNumeral 2 m.day
      ++ ' ' :: m.clockText)

/-! ### Reading -/

/-- The microseconds that the digits of a fraction of a second spell; what is finer is dropped. -/
def readFraction? : List Char → Option Nat
  | [] => some 0
  | '.' :: cs => do
    let _ ← readNumeral? cs
    readNumeral? ((cs ++ ['0', '0', '0', '0', '0', '0']).take 6)
  | _ => none

/-- **Reading the full spelling of a moment.** -/
def ofText? (s : String) : Option Moment :=
  match s.toList with
  | y₁ :: y₂ :: y₃ :: y₄ :: '-' :: m₁ :: m₂ :: '-' :: d₁ :: d₂ :: 'T' :: h₁ :: h₂ :: ':' ::
      i₁ :: i₂ :: ':' :: s₁ :: s₂ :: fraction => do
    return {
      year := ← readNumeral? [y₁, y₂, y₃, y₄]
      month := ← readNumeral? [m₁, m₂]
      day := ← readNumeral? [d₁, d₂]
      hour := ← readNumeral? [h₁, h₂]
      minute := ← readNumeral? [i₁, i₂]
      second := ← readNumeral? [s₁, s₂]
      micro := ← readFraction? fraction }
  | _ => none

end Moment

end NoteSearch
