/-!
# Values in a document

A configuration file is a document: a table of entries whose values are texts, numbers, truth values,
dates, lists and tables again. Which of them are meaningful where is not the document's concern; a
reader of configurations decides that.
-/

namespace NoteSearch.Config

/-- **A value in a document.** Numbers with a fraction and dates keep their spelling: no
configuration entry has use for what they denote. -/
inductive Value
  /-- No value. -/
  | null
  /-- A truth value. -/
  | boolean (b : Bool)
  /-- A whole number of any size. -/
  | integer (n : Int)
  /-- A number that is not written as a whole number. -/
  | real (spelling : String)
  /-- A text. -/
  | text (s : String)
  /-- A date, a time, or both. -/
  | moment (spelling : String)
  /-- A list. -/
  | list (items : List Value)
  /-- A table, as its entries in the order in which they were written. -/
  | table (entries : List (String × Value))
  deriving Repr, Inhabited

/-- The entries of a table. -/
abbrev Table := List (String × Value)

namespace Table

/-- The value of a key. -/
def get? (t : Table) (key : String) : Option Value :=
  List.lookup key t

/-- The table with the value of a key replaced, or added at the end. -/
def set (t : Table) (key : String) (v : Value) : Table :=
  if t.any (·.1 == key) then t.map fun e => if e.1 == key then (key, v) else e
  else t ++ [(key, v)]

end Table

end NoteSearch.Config
