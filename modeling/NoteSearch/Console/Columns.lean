import NoteSearch.Console.Layout

/-!
# The widths of columns

Every column of a table wants to be as wide as the widest of its cells, with a space on either side. Where
the columns together are too wide for the terminal, those that may be broken give way first, the widest of
them before the others, and then all of them alike. In the end no column is wider than it wants to be. A
table of many narrow columns beside wide ones may still have no room; it is cut when it is written.
-/

namespace NoteSearch.Console

/-- **A column.** -/
structure Column where
  /-- What stands in its head. -/
  heading : String
  /-- Where its lines stand. -/
  side : Side := .left
  /-- Whether its lines may be broken. -/
  breakable : Bool := true
  /-- The name of its style. -/
  style : String := "none"
  deriving DecidableEq, Repr, Inhabited

/-- The number of spaces around a cell. -/
def padding : Nat := 2

/-- The width that a cell wants, with the spaces around it, when there are `limit` cells at most. -/
def cellWidthWithin (limit : Nat) (t : Marked) : Nat :=
  if limit ≤ padding then limit else min limit (min limit t.naturalWidth + padding)

/-- The width that a column wants, when there are `limit` cells at most. -/
def columnWidthWithin (limit : Nat) (column : List Marked) : Nat :=
  (column.map (cellWidthWithin limit)).foldl max 0

/-- The sum of some widths. -/
def total (widths : List Nat) : Nat :=
  widths.foldl (· + ·) 0

/-- A quotient rounded to the nearest whole number, and to the nearest even one where two are as near. -/
def roundedQuotient (m n : Nat) : Nat :=
  let q := m / n
  if 2 * (m % n) < n then q
  else if n < 2 * (m % n) then q + 1
  else if q % 2 == 0 then q else q + 1

/-- Widths of which those that are marked give up `excess` cells in equal shares, each at most as much as it
is marked with. `sharing` is the number of those that are marked. -/
def giveUp (excess sharing : Nat) : List (Nat × Option Nat) → List Nat
  | [] => []
  | (width, none) :: rest => width :: giveUp excess sharing rest
  | (width, some most) :: rest =>
    let share := min most (roundedQuotient excess sharing)
    (width - share) :: giveUp (excess - share) (sharing - 1) rest

/-- Widths of which some give up `excess` cells, each at most as much as it may. What may give up nothing
takes no share. -/
def shrinkBy (excess : Nat) (widths : List (Nat × Option Nat)) : List Nat :=
  let widths := widths.map fun (w, most) => (w, most.filter (0 < ·))
  giveUp excess (widths.filter (·.2.isSome)).length widths

/-- The widths of columns after those that may be broken have given way, so that the widths together are at
most `limit`, if that can be. Each time the widest of them become as narrow as the next one. The first
argument bounds how often, since every time a cell is given up. -/
def giveWay (limit : Nat) : Nat → List (Nat × Bool) → List Nat
  | 0, columns => columns.map (·.1)
  | steps + 1, columns =>
    let excess := total (columns.map (·.1)) - limit
    let broken := (columns.filter (·.2)).map (·.1)
    let widest := broken.foldl max 0
    let next := (broken.filter (· != widest)).foldl max 0
    if excess == 0 || widest == 0 then columns.map (·.1)
    else
      let most := min excess (widest - next)
      let narrower := shrinkBy excess <| columns.map fun (w, breakable) =>
        (w, if breakable && w == widest then some most else none)
      giveWay limit steps (narrower.zip (columns.map (·.2)))

/-- The widths of columns that are too wide together for `limit` cells. Where giving way is not enough, all of
them are to give up equal shares. What a narrow one cannot give up is not asked of the others, so that the
widths may still be too much. -/
def fitWidths (limit : Nat) (columns : List (Nat × Bool)) : List Nat :=
  let widths := giveWay limit (total (columns.map (·.1)) - limit) columns
  if total widths ≤ limit then widths
  else shrinkBy (total widths - limit) (widths.map fun w => (w, some w))

/-- **The widths of the columns of a table**, with the spaces around the cells, where each is given with all
of its cells. -/
def columnWidths (columns : List (Column × List Marked)) : List Nat :=
  let limit := Marked.consoleWidth - (columns.length + 1)
  let wanted := columns.map fun (_, cells) => max 1 (columnWidthWithin limit cells)
  if total wanted ≤ limit then wanted
  else
    let widths := fitWidths limit (wanted.zip (columns.map fun (c, _) => c.breakable))
    (columns.zip widths).map fun ((_, cells), width) => columnWidthWithin width cells

end NoteSearch.Console
