import NoteSearch.Text.Hexadecimal
import NoteSearch.Toml.Basic

/-!
# Quoted texts in TOML

A text stands between double or single quotes, and between three of either when it may run over
several lines. Between double quotes a backslash starts an escape; between single quotes every
character stands for itself. A text of several lines starts after the line end that follows its opening
quotes, and up to two quotes before its closing ones belong to it. In such a text a backslash at the end
of a line takes away that line end and all blanks after it.
-/

namespace NoteSearch.Toml

open Text

/-! ### Escapes -/

/-- The character whose number is spelled by hexadecimal digits. -/
def hexChar? (digits : List Char) : Option Char := do
  let n ← hexNumber? digits
  if n.isValidChar then some (Char.ofNat n) else none

/-- The character that a backslash and one letter stand for. -/
def shortEscape? : Char → Option Char
  | 'b' => some '\x08'
  | 't' => some '\t'
  | 'n' => some '\n'
  | 'f' => some '\x0c'
  | 'r' => some '\r'
  | '"' => some '"'
  | '\\' => some '\\'
  | _ => none

/-! ### Between double quotes -/

/-- Where a reader of quoted text stands. -/
inductive Place
  /-- In the text. -/
  | inside
  /-- After a backslash and spaces, before the line end that has to follow. -/
  | beforeLineEnd
  /-- After an escaped line end, before the next character that is no blank. -/
  | afterLineEnd
  deriving DecidableEq, Repr

/-- One more character at the start of what a reader has read. -/
def push (c : Char) : Reading (List Char) → Reading (List Char)
  | .ok (text, rest) => .ok (c :: text, rest)
  | .error fault => .error fault

/-- The text up to a closing double quote, on one line. -/
def basicLine : List Char → Reading (List Char)
  | [] => .error .malformed
  | '"' :: cs => .ok ([], cs)
  | '\\' :: 'u' :: a :: b :: c :: d :: cs =>
    match hexChar? [a, b, c, d] with
    | some x => push x (basicLine cs)
    | none => .error .malformed
  | '\\' :: 'U' :: a :: b :: c :: d :: e :: f :: g :: h :: cs =>
    match hexChar? [a, b, c, d, e, f, g, h] with
    | some x => push x (basicLine cs)
    | none => .error .malformed
  | '\\' :: c :: cs =>
    match shortEscape? c with
    | some x => push x (basicLine cs)
    | none => .error .malformed
  | c :: cs => if isForbidden c || c == '\\' then .error .malformed else push c (basicLine cs)

/-- The text up to three closing double quotes, on any number of lines. -/
def basicLines (place : Place) : List Char → Reading (List Char)
  | [] => .error .malformed
  | c :: cs =>
    match place with
    | .beforeLineEnd =>
      if isSpace c then basicLines .beforeLineEnd cs
      else if c == '\n' then basicLines .afterLineEnd cs
      else .error .malformed
    | .afterLineEnd =>
      if isSpace c || c == '\n' then basicLines .afterLineEnd cs else inLines c cs
    | .inside => inLines c cs
where
  /-- The same, in the text, where it starts with `c`. -/
  inLines (c : Char) (cs : List Char) : Reading (List Char) :=
    match c, cs with
    | '"', '"' :: '"' :: cs => .ok ([], cs)
    | '\\', 'u' :: a :: b :: c :: d :: cs =>
      match hexChar? [a, b, c, d] with
      | some x => push x (basicLines .inside cs)
      | none => .error .malformed
    | '\\', 'U' :: a :: b :: c :: d :: e :: f :: g :: h :: cs =>
      match hexChar? [a, b, c, d, e, f, g, h] with
      | some x => push x (basicLines .inside cs)
      | none => .error .malformed
    | '\\', c :: cs =>
      if c == '\n' then basicLines .afterLineEnd cs
      else if isSpace c then basicLines .beforeLineEnd cs
      else match shortEscape? c with
        | some x => push x (basicLines .inside cs)
        | none => .error .malformed
    | c, cs =>
      if isForbiddenInLines c || c == '\\' then .error .malformed
      else push c (basicLines .inside cs)

/-! ### Between single quotes -/

/-- The text up to a closing mark, every character of which stands for itself. -/
def literal (mark : List Char) (forbidden : Char → Bool) (cs : List Char) : Reading (List Char) :=
  match splitAtMark? mark cs with
  | some (text, rest) => if text.any forbidden then .error .malformed else .ok (text, rest)
  | none => .error .malformed

/-! ### Texts of several lines -/

/-- The text after the line end at its start, if there is one. -/
def skipLineEnd : List Char → List Char
  | '\n' :: cs => cs
  | cs => cs

/-- A text of several lines with up to two more quotes, which stand after its closing quotes. -/
def withQuotes (quote : Char) (text : List Char) : List Char → List Char × List Char
  | c :: d :: cs =>
    if c == quote then
      if d == quote then (text ++ [c, d], cs) else (text ++ [c], d :: cs)
    else (text, c :: d :: cs)
  | [c] => if c == quote then (text ++ [c], []) else (text, [c])
  | [] => (text, [])

/-- **A quoted text**, when there is one at the start. -/
def quoted? : List Char → Option (Reading (List Char))
  | '"' :: '"' :: '"' :: cs =>
    some ((basicLines .inside (skipLineEnd cs)).map fun (text, rest) => withQuotes '"' text rest)
  | '"' :: cs => some (basicLine cs)
  | '\'' :: '\'' :: '\'' :: cs =>
    some ((literal ['\'', '\'', '\''] isForbiddenInLines (skipLineEnd cs)).map
      fun (text, rest) => withQuotes '\'' text rest)
  | '\'' :: cs => some (literal ['\''] isForbidden cs)
  | _ => none

end NoteSearch.Toml
