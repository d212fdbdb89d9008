import NoteSearch.Config.Value

/-!
# Reading TOML: characters and faults

A configuration file is written in TOML. Its reader is made of small readers, each of which takes what
it knows from the start of a text and returns it together with the text that is left. A reader that
finds something else fails, and the document as a whole fails with it.

A line ends with a line feed; a carriage return before it has been taken away beforehand.
-/

namespace NoteSearch.Toml

/-- **The reason why a text is not read.** -/
inductive Fault
  /-- It is not TOML. -/
  | malformed
  /-- It is TOML, with a whole number of more digits than can be taken in. -/
  | numberTooLong
  deriving DecidableEq, Repr, Inhabited

/-- **The outcome of a reader**: what was read, and the text that is left. -/
abbrev Reading (α : Type) := Except Fault (α × List Char)

/-- Whether a character separates words within a line. -/
def isSpace (c : Char) : Bool :=
  c == ' ' || c == '\t'

/-- Whether a character must not stand in a line as it is: a control character other than the
tabulator. -/
def isForbidden (c : Char) : Bool :=
  (c.toNat < 0x20 && c != '\t') || c.toNat == 0x7F

/-- Whether a character must not stand in a text of several lines as it is. -/
def isForbiddenInLines (c : Char) : Bool :=
  isForbidden c && c != '\n'

/-- The text after the spaces at its start. -/
def skipSpaces (cs : List Char) : List Char :=
  cs.dropWhile isSpace

/-- The text after the comment at its start, if there is one. A comment ends before the end of its
line. -/
def skipComment : List Char → Except Fault (List Char)
  | '#' :: cs =>
    if (cs.takeWhile (· != '\n')).any isForbidden then .error .malformed
    else .ok (cs.dropWhile (· != '\n'))
  | cs => .ok cs

/-- The text after all spaces, line ends and comments at its start. The flag tells whether the text
starts within a comment. -/
def skipGap (inComment : Bool) : List Char → Except Fault (List Char)
  | [] => .ok []
  | c :: cs =>
    if c == '\n' then skipGap false cs
    else if inComment then if isForbidden c then .error .malformed else skipGap true cs
    else if isSpace c then skipGap false cs
    else if c == '#' then skipGap true cs
    else .ok (c :: cs)

/-- The text after a character that has to be there. -/
def expect (c : Char) : List Char → Except Fault (List Char)
  | [] => .error .malformed
  | d :: cs => if d == c then .ok cs else .error .malformed

/-- The text before the first occurrence of a mark, and the text after it. -/
def splitAtMark? (mark : List Char) : List Char → Option (List Char × List Char)
  | [] => none
  | c :: cs =>
    if mark.isPrefixOf (c :: cs) then some ([], (c :: cs).drop mark.length)
    else (splitAtMark? mark cs).map fun (before, after) => (c :: before, after)

end NoteSearch.Toml
