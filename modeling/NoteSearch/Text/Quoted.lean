import NoteSearch.Text.Hexadecimal
import NoteSearch.Text.UnprintableTable

/-!
# Texts in quotation marks

Messages that name what the user typed put it in quotation marks, so that blanks and unprintable
characters in it can be seen. Single marks are used, unless the text has a single mark and no double
one. A backslash, the mark in use, and characters that cannot be shown are escaped.
-/

namespace NoteSearch.Text

/-- Whether a character is shown as itself in a quoted text. -/
def isPrintable (c : Char) : Bool :=
  if c.toNat < 0x80 then 0x20 ≤ c.toNat && c.toNat < 0x7F else !unprintable.contains c

/-- The number of a character that cannot be shown, in the shortest of the three forms that holds
it. -/
def numberEscape (c : Char) : List Char :=
  if c.toNat < 0x100 then '\\' :: 'x' :: hexDigits 2 c.toNat
  else if c.toNat < 0x10000 then '\\' :: 'u' :: hexDigits 4 c.toNat
  else '\\' :: 'U' :: hexDigits 8 c.toNat

/-- A character as it is written between two quotation marks `mark`. -/
def quotedChar (mark c : Char) : List Char :=
  if c == mark || c == '\\' then ['\\', c]
  else if c == '\n' then ['\\', 'n']
  else if c == '\r' then ['\\', 'r']
  else if c == '\t' then ['\\', 't']
  else if isPrintable c then [c]
  else numberEscape c

/-- The mark that a text is quoted with. -/
def quotationMark (cs : List Char) : Char :=
  if cs.contains '\'' && !cs.contains '"' then '"' else '\''

/-- **A text in quotation marks.** -/
def quoted (s : String) : String :=
  let mark := quotationMark s.toList
  String.ofList (mark :: s.toList.flatMap (quotedChar mark) ++ [mark])

end NoteSearch.Text
