import NoteSearch.Snippet.Substitution
import NoteSearch.Text.Digit

/-!
# The markup that a preview drops

A note is written in Markdown, and its preview is plain text. Each rule here takes one kind of markup
away and keeps the words inside it. None of them parses the document: a rule looks for its delimiters
and nothing else, so markup of one kind may cross markup of another.

A stretch between delimiters must not be empty and does not contain the delimiter itself; it may run
over line ends.
-/

namespace NoteSearch.Snippet

open Text

/-- How many characters at the start of a text have a property. -/
def runLength (p : Char → Bool) (cs : List Char) : Nat :=
  (cs.takeWhile p).length

/-- A heading mark: one to six number signs at the start of a line, and the blanks after them. -/
def heading : Rule := fun lineStart cs =>
  let marks := runLength (· == '#') cs
  let gap := runLength isBlank (cs.drop marks)
  if lineStart && 1 ≤ marks && marks ≤ 6 && 1 ≤ gap then some ⟨marks + gap, []⟩ else none

/-- A text after `opening` marks of emphasis: what the marks hold up to the next of them, and up to three
that close it. -/
def emphasized (mark : Char) (opening : Nat) (cs : List Char) : Option Stretch :=
  let body := (cs.drop opening).takeWhile (· != mark)
  let closing := runLength (· == mark) (cs.drop (opening + body.length))
  if body != [] && 1 ≤ closing then some ⟨opening + body.length + min 3 closing, body⟩ else none

/-- Emphasis: one to three marks on either side. The numbers on the two sides may differ, and of more
than three closing marks the rest stays. -/
def emphasis (mark : Char) : Rule := fun _ cs =>
  let opening := runLength (· == mark) cs
  if 1 ≤ opening && opening ≤ 3 then emphasized mark opening cs else none

/-- A text after a fence: what stands before the next mark, if a whole fence starts there. -/
def fencedBody (mark : Char) (fence : List Char) (cs : List Char) : Option Stretch :=
  let body := (cs.drop fence.length).takeWhile (· != mark)
  if body != [] && fence.isPrefixOf (cs.drop (fence.length + body.length)) then
    some ⟨fence.length + body.length + fence.length, body⟩
  else none

/-- A stretch between two copies of a fence, which is a repeated `mark`. -/
def fenced (mark : Char) (width : Nat) : Rule := fun _ cs =>
  let fence := List.replicate width mark
  if fence.isPrefixOf cs then fencedBody mark fence cs else none

/-- A text after the opening of a link: a label up to a bracket, and a target in parentheses, of which the
label is kept. -/
def linkLabel (opening : Nat) (labelled : Bool) (cs : List Char) : Option Stretch :=
  let label := (cs.drop opening).takeWhile (· != ']')
  let after := cs.drop (opening + label.length)
  let target := (after.drop 2).takeWhile (· != ')')
  if (!labelled || label != []) && [']', '('].isPrefixOf after
      && target != [] && [')'].isPrefixOf (after.drop (2 + target.length)) then
    some ⟨opening + label.length + 2 + target.length + 1, label⟩
  else none

/-- A link: a label in brackets and a target in parentheses, of which the label is kept. Before an
image stands an exclamation mark, and its label may be empty. -/
def linked (opening : List Char) (labelled : Bool) : Rule := fun _ cs =>
  if opening.isPrefixOf cs then linkLabel opening.length labelled cs else none

/-- The mark of a list item, with the blanks – and blank lines – before it and the blanks after it. -/
def item (marker : List Char → Nat) : Rule := fun lineStart cs =>
  let indent := runLength isBlank cs
  let width := marker (cs.drop indent)
  let gap := runLength isBlank (cs.drop (indent + width))
  if lineStart && 1 ≤ width && 1 ≤ gap then some ⟨indent + width + gap, []⟩ else none

/-- The width of the mark of an unnumbered item, or zero. -/
def bulletWidth : List Char → Nat
  | c :: _ => if c == '-' || c == '*' || c == '+' then 1 else 0
  | [] => 0

/-- The width of the mark of a numbered item, or zero. -/
def ordinalWidth (cs : List Char) : Nat :=
  let digits := runLength isDigit cs
  if 1 ≤ digits && ['.'].isPrefixOf (cs.drop digits) then digits + 1 else 0

/-- A run of at least `least` characters of one class becomes a single space. -/
def squeeze (p : Char → Bool) (least : Nat) : Rule := fun _ cs =>
  let run := runLength p cs
  if least ≤ run then some ⟨run, [' ']⟩ else none

/-- **The rules, in the order of their application.** Images come before links, since a link is part
of an image. -/
def rules : List Rule :=
  [heading, emphasis '*', emphasis '_', fenced '`' 1, linked ['!', '['] false, linked ['['] true,
    item bulletWidth, item ordinalWidth, fenced '~' 2, squeeze (· == '\n') 1, squeeze isBlank 2]

end NoteSearch.Snippet
