import NoteSearch.Text.Decimal
import NoteSearch.Text.Quoted

/-!
# JSON

Results for other programs are printed as JSON in ASCII, with two spaces for each level. A character
beyond ASCII is written by its number in UTF-16, so one beyond the first plane takes two escapes.
-/

namespace NoteSearch.Console

open Text

/-- **A JSON value**, as far as results need them. -/
inductive Json
  /-- No value. -/
  | null
  /-- A truth value. -/
  | bool (b : Bool)
  /-- A whole number. -/
  | nat (n : Nat)
  /-- A text. -/
  | text (s : String)
  /-- A list. -/
  | list (items : List Json)
  /-- Named values. -/
  | record (fields : List (String × Json))
  deriving Repr, Inhabited

namespace Json

/-- The escape of a unit of UTF-16. -/
def unitEscape (n : Nat) : List Char :=
  '\\' :: 'u' :: hexDigits 4 n

/-- A character as it is written between quotes. -/
def escaped (c : Char) : List Char :=
  if c == '"' then ['\\', '"']
  else if c == '\\' then ['\\', '\\']
  else if c == '\n' then ['\\', 'n']
  else if c == '\r' then ['\\', 'r']
  else if c == '\t' then ['\\', 't']
  else if c == '\x08' then ['\\', 'b']
  else if c == '\x0c' then ['\\', 'f']
  else if 0x20 ≤ c.toNat && c.toNat < 0x7F then [c]
  else if c.toNat < 0x10000 then unitEscape c.toNat
  else
    let n := c.toNat - 0x10000
    unitEscape (0xD800 + n / 0x400) ++ unitEscape (0xDC00 + n % 0x400)

/-- A text between quotes. -/
def writeText (s : String) : List Char :=
  '"' :: s.toList.flatMap escaped ++ ['"']

/-- The start of a line at a level. -/
def newLine (level : Nat) : List Char :=
  '\n' :: List.replicate (2 * level) ' '

/-- Written members of a list or a record, one on each line, between brackets. -/
def block (level : Nat) (first last : Char) (members : List (List Char)) : List Char :=
  if members.isEmpty then [first, last]
  else
    first :: newLine (level + 1)
      ++ (',' :: newLine (level + 1)).intercalate members ++ newLine level ++ [last]

mutual

/-- A value at a level. -/
def write (level : Nat) : Json → List Char
  | null => ['n', 'u', 'l', 'l']
  | bool true => ['t', 'r', 'u', 'e']
  | bool false => ['f', 'a', 'l', 's', 'e']
  | nat n => numeral n
  | text s => writeText s
  | list items => block level '[' ']' (writeItems (level + 1) items)
  | record fields => block level '\x7b' '\x7d' (writeFields (level + 1) fields)

/-- The members of a list. -/
def writeItems (level : Nat) : List Json → List (List Char)
  | [] => []
  | item :: items => item.write level :: writeItems level items

/-- The members of a record. -/
def writeFields (level : Nat) : List (String × Json) → List (List Char)
  | [] => []
  | (name, value) :: fields =>
    (writeText name ++ ':' :: ' ' :: value.write level) :: writeFields level fields

end

/-- **The text of a value.** -/
def print (v : Json) : String :=
  String.ofList (v.write 0)

end Json

end NoteSearch.Console
