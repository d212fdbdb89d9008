import NoteSearch.Text.WordTable

/-!
# Word characters

A word of a query is a maximal run of letters, digits, underscores and hyphens. The hyphen is let in
so that `to-do` is one word, but it does not count as a letter: a keyword may be followed by it.
Hence two classes, the **word characters** and the **name characters**, and the second is the first
with the hyphen added.
-/

namespace NoteSearch.Text

/-- Whether a character is a letter or a number of any script, or the underscore. -/
def isWordChar (c : Char) : Bool :=
  c.isAlphanum || c == '_' || letterOrNumber.contains c

/-- Whether a character may stand in an unquoted name: a word character or a hyphen. -/
def isNameChar (c : Char) : Bool :=
  isWordChar c || c == '-'

end NoteSearch.Text
