import NoteSearch.Console.Markup
import NoteSearch.Text.Width

/-!
# Fitting text into lines

A line of the terminal has so many cells, and a column of a table fewer. A text is put into it line by line:
tabulators become spaces up to the next multiple of eight, and a line that is too wide is broken before a
word. In a column what is still too wide is cut and ends in an ellipsis, and what is too narrow is filled
with spaces. In a message, a word that is too wide for a line goes on in the next one.

A line is written in pieces (`NoteSearch.Console.Marked.pieces`), each of them in one style.
-/

namespace NoteSearch.Console

open Text

namespace Span

/-- The part of a stretch between two places, as seen from the first of them. -/
def slice (s : Span) (first last : Nat) : Span :=
  { s with first := s.first - first, last := min s.last last - first }

/-- A stretch that starts and ends so many places later. -/
def shift (s : Span) (n : Nat) : Span :=
  { s with first := s.first + n, last := s.last + n }

end Span

namespace Marked

/-- The part of a text from a place up to a place, with the stretches that reach into it. -/
def slice (t : Marked) (first last : Nat) : Marked where
  chars := (t.chars.take last).drop first
  spans := (t.spans.map (·.slice first last)).filter fun s => s.first < s.last

/-- The parts of a text between the given places and at its ends. -/
def sliceAt (t : Marked) (places : List Nat) : List Marked :=
  if places.isEmpty then [t]
  else (List.zip (0 :: places) (places ++ [t.chars.length])).map fun p => t.slice p.1 p.2

/-- The places of a character in a text that starts at place `n`. -/
def placesOf (c : Char) (n : Nat) : List Char → List Nat
  | [] => []
  | d :: ds => if d == c then n :: placesOf c (n + 1) ds else placesOf c (n + 1) ds

/-- The lines of a text. -/
def lines (t : Marked) : List Marked :=
  match placesOf '\n' 0 t.chars with
  | [] => [t]
  | ends =>
    (List.zip (0 :: ends.map (· + 1)) (ends ++ [t.chars.length])).map fun p => t.slice p.1 p.2

/-- The width of a text that is written on one line. -/
def width (t : Marked) : Nat :=
  textWidth t.chars

/-- A text after another. -/
def append (t u : Marked) : Marked where
  chars := t.chars ++ u.chars
  spans := t.spans ++ u.spans.map (·.shift t.chars.length)

/-! ### Tabulators -/

/-- The distance between tabulator stops. -/
def tabStop : Nat := 8

/-- A text with a tabulator at its end at most, after `cells` cells of a line. The tabulator becomes spaces,
at least one of them, and the stretches that reach it go on over all of them. -/
def expandTabAtEnd (cells : Nat) (t : Marked) : Marked :=
  if t.chars.getLast? == some '\t' then
    let chars := t.chars.dropLast ++ [' ']
    let missing := (tabStop - (cells + textWidth chars) % tabStop) % tabStop
    ⟨chars ++ List.replicate missing ' ', t.spans.map fun s =>
      if s.last < chars.length then s else { s with last := s.last + missing }⟩
  else t

/-- Texts one after another, with spaces for the tabulators at their ends, after the line `line`. -/
def expandTabsAfter (line : Marked) (cells : Nat) : List Marked → Marked
  | [] => line
  | t :: ts =>
    let t := expandTabAtEnd cells t
    expandTabsAfter (line.append t) (cells + t.width) ts

/-- A line with spaces for tabulators. -/
def expandTabs (t : Marked) : Marked :=
  match placesOf '\t' 1 t.chars with
  | [] => t
  | places => expandTabsAfter ⟨[], []⟩ 0 (t.sliceAt places)

/-! ### Breaking lines -/

/-- The length of the first word of a text with the blanks around it: blanks before it, its own characters,
and the blanks after it. It is zero when the text has no word. -/
def firstWordLength (cs : List Char) : Nat :=
  let afterLead := cs.dropWhile isBlank
  let afterBody := afterLead.dropWhile fun c => !isBlank c
  if afterLead.isEmpty then 0 else cs.length - (afterBody.dropWhile isBlank).length

/-- What follows the first word is shorter than the text. -/
theorem length_drop_firstWordLength {cs : List Char} (h : ¬(firstWordLength cs = 0 ∨ cs = [])) :
    (cs.drop (firstWordLength cs)).length < cs.length := by
  obtain ⟨hword, hcs⟩ := not_or.1 h
  have := List.length_pos_iff.2 hcs
  rw [List.length_drop]
  omega

/-- The words of a text that starts at place `n`, each with the blanks around it, and their places. Blanks
before the first word belong to it, and all others to the word before them. -/
def words (n : Nat) (cs : List Char) : List (Nat × List Char) :=
  if h : firstWordLength cs = 0 ∨ cs = [] then []
  else
    have := length_drop_firstWordLength h
    (n, cs.take (firstWordLength cs)) :: words (n + firstWordLength cs) (cs.drop (firstWordLength cs))
termination_by cs.length

/-- The places where the parts of a folded word start, when the word starts at place `n`, and the width of
the last part. -/
def foldPlaces (n : Nat) : List (List Char) → List Nat × Nat
  | [] => ([], 0)
  | [part] => ([n], textWidth part)
  | part :: rest =>
    let (places, width) := foldPlaces (n + part.length) rest
    (n :: places, width)

/-- The places before which a line of a width is broken, given how many cells of the line are taken. A word
that is too wide for any line starts a line, and goes on in the next ones if it may be folded. -/
def breaks (folding : Bool) (limit : Nat) (taken : Nat) : List (Nat × List Char) → List Nat
  | [] => []
  | (n, word) :: ws =>
    let bare := textWidth (trimEnd word)
    if taken + bare ≤ limit then breaks folding limit (taken + textWidth word) ws
    else if limit < bare then
      let (places, width) := foldPlaces n (if folding then foldText limit word else [word])
      places.filter (· != 0) ++ breaks folding limit width ws
    else if taken == 0 || n == 0 then breaks folding limit taken ws
    else n :: breaks folding limit (textWidth word) ws

/-- The first `n` characters of a text, with the stretches that begin among them. -/
def cutAfter (n : Nat) (t : Marked) : Marked where
  chars := t.chars.take n
  spans := (t.spans.filter (·.first < n)).map fun s => { s with last := min s.last n }

/-- A line without as many of the blanks at its end as it has characters too many. -/
def dropBlanksBeyond (limit : Nat) (t : Marked) : Marked :=
  let blanksAtEnd := (t.chars.reverse.takeWhile isBlank).length
  let excess := min blanksAtEnd (t.chars.length - limit)
  if excess == 0 then t else t.cutAfter (t.chars.length - excess)

/-- A line broken into lines of a width. -/
def breakLine (folding : Bool) (limit : Nat) (t : Marked) : List Marked :=
  (t.sliceAt (breaks folding limit 0 (words 0 t.chars))).map (·.dropBlanksBeyond limit)

/-! ### Cutting and filling -/

/-- A line with other characters. Stretches that reach beyond them end with them. -/
def withChars (t : Marked) (chars : List Char) : Marked :=
  cutAfter chars.length ⟨chars, t.spans⟩

/-- A line cut to a width, with an ellipsis for what was cut off. -/
def truncate (limit : Nat) (t : Marked) : Marked :=
  if t.width ≤ limit then t else t.withChars (crop (limit - 1) t.chars ++ ['…'])

/-- A line cut to a width. -/
def cropLine (limit : Nat) (t : Marked) : Marked :=
  if t.width ≤ limit then t else t.withChars (crop limit t.chars)

/-- A line with spaces before and after it. -/
def pad (before after : Nat) (t : Marked) : Marked where
  chars := List.replicate before ' ' ++ t.chars ++ List.replicate after ' '
  spans := t.spans.map (·.shift before)

/-- A line without the blanks at its end. -/
def trimLineEnd (t : Marked) : Marked :=
  t.cutAfter (trimEnd t.chars).length

end Marked

/-- Where the lines of a column stand. -/
inductive Side
  /-- At the left. -/
  | left
  /-- In the middle. -/
  | middle
  /-- At the right. -/
  | right
  deriving DecidableEq, Repr, Inhabited

namespace Marked

/-- A line made as wide as its column. -/
def alignLine (side : Side) (limit : Nat) (t : Marked) : Marked :=
  match side with
  | .left =>
    let t := t.truncate limit
    t.pad 0 (limit - t.width)
  | .middle =>
    let t := t.trimLineEnd.truncate limit
    let free := limit - t.width
    t.pad (free / 2) (free - free / 2)
  | .right =>
    let t := t.trimLineEnd.truncate limit
    t.pad (limit - t.width) 0

/-- **The lines of a text in a column** of a width. -/
def layOut (side : Side) (breakable : Bool) (limit : Nat) (t : Marked) : List Marked :=
  t.lines.flatMap fun line =>
    let line := line.expandTabs
    (if breakable then line.breakLine false limit else [line]).map (·.alignLine side limit)

/-- Whether a character ends a line, for the width of a text. -/
def endsLine (c : Char) : Bool :=
  c == '\n' || c == '\r' || c == '\x0b' || c == '\x0c' || c == '\x1c' || c == '\x1d' || c == '\x1e'
    || c == '\u0085' || c == '\u2028' || c == '\u2029'

/-- **The width that a text needs**: the width of the widest of its lines. -/
def naturalWidth (t : Marked) : Nat :=
  ((splitAt endsLine t.chars).map textWidth).foldl max 0

end Marked

/-! ### Pieces -/

/-- **A piece of a line**, which is in one style. -/
structure Piece where
  /-- The text. -/
  chars : List Char
  /-- The style. -/
  style : Style
  deriving Repr, Inhabited

/-- Spaces in the plain style. -/
def Piece.spaces (n : Nat) : Piece :=
  ⟨List.replicate n ' ', .plain⟩

/-- The pieces that fill `limit` cells, of pieces that are wider. -/
def cropPieces (limit : Nat) : List Piece → List Piece
  | [] => []
  | p :: ps =>
    let width := textWidth p.chars
    if width < limit then p :: cropPieces (limit - width) ps
    else [{ p with chars := if width == limit then p.chars else crop limit p.chars }]

/-- The width of pieces together. -/
def piecesWidth (ps : List Piece) : Nat :=
  (ps.map fun p => textWidth p.chars).foldl (· + ·) 0

/-- Pieces of which nothing is beyond `limit` cells. -/
def cutPieces (limit : Nat) (ps : List Piece) : List Piece :=
  if limit < piecesWidth ps then cropPieces limit ps else ps

/-- Pieces made to fill `limit` cells, with one more piece of spaces or less of what there is. -/
def fillPieces (limit : Nat) (ps : List Piece) : List Piece :=
  if piecesWidth ps < limit then ps ++ [.spaces (limit - piecesWidth ps)] else cutPieces limit ps

namespace Marked

/-- The places where a piece of a text starts or ends, in order. -/
def pieceEnds (t : Marked) : List Nat :=
  ((0 :: t.chars.length :: t.spans.flatMap fun s => [s.first, s.last]).mergeSort (· ≤ ·)).eraseDups

/-- **The pieces in which a line is written**, from the ends of its stretches. All stretches that span a
piece are seen in its style, the later on top. -/
def pieces (t : Marked) : Except StyleFault (List Piece) := do
  let styles ← t.spans.mapM fun s => return (s, ← Style.named s.style)
  let ends := t.pieceEnds
  return (List.zip ends (ends.drop 1)).map fun (first, last) =>
    let seen := styles.filter fun (s, _) => s.first ≤ first && last ≤ s.last
    ⟨(t.chars.take last).drop first, Style.stack (seen.map (·.2))⟩

/-! ### Messages -/

/-- The number of cells that a line of the terminal has. -/
def consoleWidth : Nat := 2000

/-- **A message as it is printed**, line by line. -/
def printed (t : Marked) : Except StyleFault String := do
  let lines := t.lines.flatMap fun line =>
    (line.expandTabs.breakLine true consoleWidth).map (·.cropLine consoleWidth)
  lines.forM fun line => discard line.pieces
  return String.ofList (lines.flatMap fun line => line.chars ++ ['\n'])

/-- A message with markup as it is printed. -/
def messageOfMarkup (markup : String) : Except MarkupFault String := do
  (← ofMarkup markup.toList).printed.mapError .style

end Marked

end NoteSearch.Console
