import NoteSearch.Toml.Value

/-!
# TOML documents

A document is a sequence of lines. A line gives a value to a key, or it is a header: `[key]` says that the
keys that follow lie in that table, and `[[key]]` that they lie in a new table at the end of a list of
tables. Every key is given a value at most once, and every table has at most one header.

Which keys may still be used is a matter of bookkeeping. A table that a header has named is *declared*: it
has no second header, and no dotted key in another place reaches through it. A list, or a table in braces,
is *closed*: nothing is added to it. A table that a dotted key has reached through becomes declared at the
next header. A new table in a list of tables starts with a clean slate.
-/

namespace NoteSearch.Toml

open NoteSearch.Config (Value Table)

/-- **A document that is being read.** -/
structure Draft where
  /-- What has been read so far. -/
  table : Table := []
  /-- The key of the table that the latest header names. -/
  header : Key := []
  /-- The tables that are declared. -/
  declared : List Key := []
  /-- The tables that will be declared at the next header. -/
  pending : List Key := []
  /-- The lists and tables that are closed. -/
  closed : List Key := []
  deriving Repr, Inhabited

namespace Draft

/-- Whether a key lies in something that is closed, or is closed itself. -/
def isClosed (d : Draft) (k : Key) : Bool :=
  d.closed.any (·.isPrefixOf k)

/-- The draft at a new header. -/
def atHeader (d : Draft) : Draft :=
  { d with declared := d.pending ++ d.declared, pending := [] }

/-- The draft with nothing remembered about a key and what lies in it. -/
def forget (d : Draft) (k : Key) : Draft :=
  { d with
    declared := d.declared.filter fun p => !k.isPrefixOf p
    closed := d.closed.filter fun p => !k.isPrefixOf p }

/-- The draft with its table replaced, if there is a new one. -/
def withTable (d : Draft) : Option Table → Except Fault Draft
  | some t => .ok { d with table := t }
  | none => .error .malformed

/-- The table with a new table at the end of the list of tables of a key. -/
def addToList (k : String) (t : Table) : Option Table :=
  match Table.get? t k with
  | none => some (Table.set t k (.list [.table []]))
  | some (.list vs) => some (Table.set t k (.list (vs ++ [.table []])))
  | some _ => none

/-- The draft after the header of a table. -/
def openTable (d : Draft) (k : Key) : Except Fault Draft :=
  if d.declared.contains k || d.isClosed k then .error .malformed
  else
    { d with header := k, declared := k :: d.declared }.withTable
      (changeWithin? true some k d.table)

/-- The draft after the header of a new table in a list. -/
def openListItem (d : Draft) (k : Key) : Except Fault Draft :=
  if d.isClosed k then .error .malformed
  else
    let d := d.forget k
    let t := match k.getLast? with
      | some last => changeWithin? true (addToList last) k.dropLast d.table
      | none => none
    { d with header := k, declared := k :: d.declared }.withTable t

/-- The proper beginnings of a key, but for the empty one. -/
def beginnings (k : Key) : List Key :=
  (List.range' 1 (k.length - 1)).map k.take

/-- **The draft with a value given to a key** in the table of the latest header. -/
def give (d : Draft) (k : Key) (v : Value) : Except Fault Draft :=
  let reached := (beginnings k).map (d.header ++ ·)
  let whole := d.header ++ k
  if reached.any d.declared.contains || d.isClosed whole.dropLast then .error .malformed
  else
    { d with
      pending := reached ++ d.pending
      closed := if Toml.isClosed v then whole :: d.closed else d.closed }.withTable
      (addWithin? true whole v d.table)

end Draft

/-! ### Lines -/

/-- The draft after one line, from the first character of it that is no space, and the text after what
the line says. -/
def readLine (d : Draft) (cs : List Char) : Except Fault (Draft × List Char) :=
  match cs with
  | '[' :: '[' :: cs => do
    let (k, cs) ← key (skipSpaces cs)
    let d ← d.atHeader.openListItem k
    return (d, skipSpaces (← expect ']' (← expect ']' cs)))
  | '[' :: cs => do
    let (k, cs) ← key (skipSpaces cs)
    let d ← d.atHeader.openTable k
    return (d, skipSpaces (← expect ']' cs))
  | '#' :: _ => return (d, cs)
  | cs => do
    let (k, cs) ← key cs
    let (v, cs) ← value (skipSpaces (← expect '=' cs))
    return (← d.give k v, skipSpaces cs)

/-- The draft after all lines, of which there are at most `fuel`. -/
def readLines : Nat → Draft → List Char → Except Fault Draft
  | 0, _, _ => .error .malformed
  | fuel + 1, d, cs =>
    match skipSpaces cs with
    | [] => .ok d
    | '\n' :: cs => readLines fuel d cs
    | cs => do
      let (d, cs) ← readLine d cs
      match ← skipComment cs with
      | [] => return d
      | '\n' :: cs => readLines fuel d cs
      | _ => .error .malformed

/-- A text without the carriage returns that stand before a line feed. -/
def unifyLineEnds : List Char → List Char
  | [] => []
  | '\r' :: '\n' :: cs => '\n' :: unifyLineEnds cs
  | c :: cs => c :: unifyLineEnds cs

/-- **Reading a document.** -/
def read (s : String) : Except Fault Table :=
  let cs := unifyLineEnds s.toList
  (readLines (cs.length + 1) {} cs).map (·.table)

end NoteSearch.Toml
