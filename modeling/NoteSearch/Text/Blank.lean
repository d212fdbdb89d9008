import NoteSearch.Text.CharSet

/-!
# Blanks

What separates words: spaces of every width, tabulators, line and paragraph ends, and the four
information separators. The zero-width space and the byte-order mark are no blanks. Trimming removes
blanks at the ends of a text and nothing else.
-/

namespace NoteSearch.Text

/-- **The blanks**: every character that only separates words. -/
def blanks : CharSet where
  runs := [(0x09, 0x0D), (0x1C, 0x20), (0x85, 0x85), (0xA0, 0xA0), (0x1680, 0x1680),
    (0x2000, 0x200A), (0x2028, 0x2029), (0x202F, 0x202F), (0x205F, 0x205F), (0x3000, 0x3000)]

/-- Whether a character is a blank. -/
def isBlank (c : Char) : Bool :=
  blanks.contains c

/-- Whether a text consists of blanks only; the empty text does. -/
def isBlankText (s : String) : Bool :=
  s.toList.all isBlank

/-- The text without the blanks at its start. -/
def trimStart (cs : List Char) : List Char :=
  cs.dropWhile isBlank

/-- The text without the blanks at its end. -/
def trimEnd (cs : List Char) : List Char :=
  (cs.reverse.dropWhile isBlank).reverse

/-- The text without the blanks at its two ends. -/
def trim (cs : List Char) : List Char :=
  trimEnd (trimStart cs)

end NoteSearch.Text
