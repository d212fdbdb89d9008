import NoteSearch.Text.Decimal
import NoteSearch.Text.Quoted
import NoteSearch.Toml.Document

/-!
# Writing TOML

What a document is made of when it is written: texts in double quotes, whole numbers, truth values, and
tables of them under their headers. A text is written so that it fits on one line, whatever is in it.
-/

namespace NoteSearch.Toml

open Text

/-- A character of a text as it is written between double quotes. -/
def escaped (c : Char) : List Char :=
  if c == '"' then ['\\', '"']
  else if c == '\\' then ['\\', '\\']
  else if c == '\n' then ['\\', 'n']
  else if c == '\r' then ['\\', 'r']
  else if c == '\x08' then ['\\', 'b']
  else if c == '\x0c' then ['\\', 'f']
  else if isForbidden c then '\\' :: 'u' :: hexDigits 4 c.toNat
  else [c]

/-- A text between double quotes. -/
def writeText (s : String) : List Char :=
  '"' :: s.toList.flatMap escaped ++ ['"']

/-- A whole number. -/
def writeInteger : Int → List Char
  | .ofNat n => numeral n
  | .negSucc n => '-' :: numeral (n + 1)

/-- Whether a whole number is written at all, and not refused for having too many digits. -/
def isWritable (n : Int) : Bool :=
  (numeral n.natAbs).length ≤ maxDigits

/-- A truth value. -/
def writeBoolean (b : Bool) : List Char :=
  if b then ['t', 'r', 'u', 'e'] else ['f', 'a', 'l', 's', 'e']

/-- A line that gives a written value to a key. -/
def writeEntry (key : String) (value : List Char) : List Char :=
  key.toList ++ ' ' :: '=' :: ' ' :: value ++ ['\n']

/-- A table: its header, and a line for each of its entries. -/
def writeTable (name : String) (entries : List (String × List Char)) : List Char :=
  '[' :: name.toList ++ ']' :: '\n' :: entries.flatMap fun e => writeEntry e.1 e.2

/-- **A document**: its tables, with an empty line between them. -/
def writeTables (tables : List (String × List (String × List Char))) : String :=
  String.ofList (['\n'].intercalate (tables.map fun t => writeTable t.1 t.2))

end NoteSearch.Toml
