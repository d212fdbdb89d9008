import NoteSearch.Text.Blank

/-!
# Splitting a text

A text is split at characters that separate: a path at its slashes, a list at its commas, a text into lines.
There is always one piece more than there are separators, and some may be empty. Words are the pieces between
blanks that are not.
-/

namespace NoteSearch.Text

/-- The pieces of a text between the characters that separate them. -/
def splitAt (separates : Char → Bool) : List Char → List (List Char)
  | [] => [[]]
  | c :: cs =>
    if separates c then [] :: splitAt separates cs
    else
      match splitAt separates cs with
      | [] => [[c]]
      | piece :: pieces => (c :: piece) :: pieces

/-- **The words of a text**, which blanks separate. -/
def blankWords (cs : List Char) : List (List Char) :=
  (splitAt isBlank cs).filter (· != [])

end NoteSearch.Text
