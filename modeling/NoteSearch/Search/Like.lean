import NoteSearch.Store.Database
import NoteSearch.Text.Infix

/-!
# Patterns

The database looks for a term with a pattern. In a pattern `%` stands for any run of characters, `_`
for any one character, and `/` takes the special meaning from the character after it; ASCII letters
match in either case. A pattern and the text that it is held against both end at the first NUL
character, the last two code points of the basic plane are read as the replacement character, and a pattern
of more than `NoteSearch.Like.maxBytes` bytes is refused.

To look for a term anywhere in a text, `/`, `%` and `_` in it are marked, and a `%` is put on either
side (`NoteSearch.Like.containing`).
-/

namespace NoteSearch.Like

open Text

/-- **A piece of a pattern.** -/
inductive Piece
  /-- Any run of characters. -/
  | anyRun
  /-- Any one character. -/
  | anyChar
  /-- This character, in either case. -/
  | char (c : Char)
  deriving DecidableEq, Repr

/-- The pieces of a pattern. A mark with nothing after it makes the pattern void. -/
def pieces? : List Char → Option (List Piece)
  | [] => some []
  | '/' :: c :: cs => (pieces? cs).map (.char c :: ·)
  | ['/'] => none
  | '%' :: cs => (pieces? cs).map (.anyRun :: ·)
  | '_' :: cs => (pieces? cs).map (.anyChar :: ·)
  | c :: cs => (pieces? cs).map (.char c :: ·)

/-- **Whether a text consists of the given pieces.** -/
def fits : List Piece → List Char → Bool
  | [], cs => cs.isEmpty
  | .anyRun :: ps, cs => anySuffix (fits ps) cs
  | .anyChar :: ps, cs =>
    match cs with
    | [] => false
    | _ :: cs => fits ps cs
  | .char k :: ps, cs =>
    match cs with
    | [] => false
    | c :: cs => c.toLower == k.toLower && fits ps cs

/-- A character as a comparison reads it. -/
def seen (c : Char) : Char :=
  if c == '\uFFFE' || c == '\uFFFF' then '\uFFFD' else c

/-- The part of a text that a comparison looks at. -/
def visible (cs : List Char) : List Char :=
  (cs.takeWhile (· != '\x00')).map seen

/-- The greatest length of a pattern, in bytes. -/
def maxBytes : Nat := 50000

/-- **Holding a text against a pattern.** -/
def test (pattern cs : List Char) : Except EngineFault Bool :=
  if maxBytes < (String.ofList pattern).utf8ByteSize then .error .patternTooLong
  else .ok ((pieces? (visible pattern)).any fun ps => fits ps (visible cs))

/-- The characters of a term, those of them marked that would not stand for themselves. -/
def marked (term : List Char) : List Char :=
  term.flatMap fun c => if c == '/' || c == '%' || c == '_' then ['/', c] else [c]

/-- **The pattern of the texts that contain a term.** -/
def containing (term : List Char) : List Char :=
  '%' :: marked term ++ ['%']

end NoteSearch.Like
