/-!
# Rewriting stretches of a text

A rule recognises a stretch at the start of a text and says what becomes of it. Substitution walks the
text from left to right: where the rule recognises a stretch, the stretch is replaced and the walk goes
on behind it; where it does not, one character is copied. So stretches are taken leftmost first and
never overlap, and what has been written is not looked at again.

Some rules apply at the start of a line only, so the walk keeps track of that.
-/

namespace NoteSearch.Snippet

/-- **A stretch that a rule recognised.** -/
structure Stretch where
  /-- How many characters it takes up. -/
  length : Nat
  /-- What is written in its place. -/
  kept : List Char
  deriving DecidableEq, Repr

/-- **A rule**: given whether the text stands at the start of a line, the stretch recognised at its
start, if any. -/
abbrev Rule := Bool → List Char → Option Stretch

/-- Whether a text that follows `taken` stands at the start of a line. -/
def endsLine (taken : List Char) : Bool :=
  taken.getLast? == some '\n'

/-- **Substitution**: every stretch that the rule recognises is replaced. -/
def substitute (rule : Rule) (lineStart : Bool) : List Char → List Char
  | [] => []
  | c :: cs =>
    match rule lineStart (c :: cs) with
    | none => c :: substitute rule (c == '\n') cs
    | some s =>
      s.kept ++ substitute rule (endsLine ((c :: cs).take s.length)) (cs.drop (s.length - 1))
termination_by cs => cs.length
decreasing_by
  · simp
  · simp only [List.length_drop, List.length_cons]; omega

@[simp] theorem substitute_nil (rule : Rule) (lineStart : Bool) :
    substitute rule lineStart [] = [] := by
  rw [substitute]

theorem substitute_cons_none {rule : Rule} {lineStart : Bool} {c : Char} {cs : List Char}
    (h : rule lineStart (c :: cs) = none) :
    substitute rule lineStart (c :: cs) = c :: substitute rule (c == '\n') cs := by
  rw [substitute, h]

theorem substitute_cons_some {rule : Rule} {lineStart : Bool} {c : Char} {cs : List Char}
    {s : Stretch} (h : rule lineStart (c :: cs) = some s) :
    substitute rule lineStart (c :: cs) =
      s.kept ++ substitute rule (endsLine ((c :: cs).take s.length)) (cs.drop (s.length - 1)) := by
  rw [substitute, h]

end NoteSearch.Snippet
