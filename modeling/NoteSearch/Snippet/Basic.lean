import NoteSearch.Snippet.Rules

/-!
# Previews of notes

A preview is the start of a note's body as one line of plain text: the markup is taken away, blanks are
squeezed together, and a text that is too long is cut and ends in three dots.
-/

namespace NoteSearch

open Text

namespace Snippet

/-- The length of a preview when none is asked for. -/
def defaultLength : Int := 120

/-- **The plain text of a note**, on one line. -/
def plain (body : List Char) : List Char :=
  trim (rules.foldl (fun cs rule => substitute rule true cs) body)

/-- The first `n` characters of a text; for a negative `n`, all but the last `-n`. -/
def clip (n : Int) (cs : List Char) : List Char :=
  if 0 ≤ n then cs.take n.toNat else cs.take (cs.length - n.natAbs)

/-- A text with three dots at its end. -/
def withEllipsis (cs : List Char) : List Char :=
  if ['.', '.', '.'].isSuffixOf cs then cs else cs ++ ['.', '.', '.']

/-- A text cut to at most `n` characters, with three dots for what was cut off. -/
def truncate (n : Int) (cs : List Char) : List Char :=
  if n < cs.length then withEllipsis (trimEnd (clip n cs)) else cs

end Snippet

/-- **The preview of a note's body.** -/
def snippet (body : String) (maxLength : Int) : String :=
  String.ofList (Snippet.truncate maxLength (Snippet.plain body.toList))

end NoteSearch
