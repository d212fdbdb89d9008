/-!
# Tokens of a query

A query is read in two stages: its text is scanned into a flat sequence of tokens, and the tokens are
parsed into an expression. What a query can ask of a single note – that it carries a tag, is filed in
a folder, contains a word, is pinned – is a `NoteSearch.Leaf`, and one type serves both stages: it is
the payload of a token and the leaf of an expression, so that the two can be compared directly.
-/

namespace NoteSearch

/-- **One thing a query asks of a note.** -/
inductive Leaf
  /-- The note carries a tag of this name. -/
  | tag (name : String)
  /-- The note is filed in a folder of this name. -/
  | folder (name : String)
  /-- The title or the body of the note contains this term. -/
  | text (term : String)
  /-- The note is pinned, or is not. -/
  | pinned (flag : Bool)
  deriving DecidableEq, Repr, Inhabited

/-- **A token of a query.** -/
inductive Token
  /-- A question about a note. -/
  | leaf (leaf : Leaf)
  /-- The operator `AND`. -/
  | and
  /-- The operator `OR`. -/
  | or
  /-- The operator `NOT`. -/
  | not
  /-- An opening parenthesis. -/
  | openParen
  /-- A closing parenthesis. -/
  | closeParen
  deriving DecidableEq, Repr, Inhabited

namespace Token

/-- The question that a token asks, for the tokens that ask one. -/
def leaf? : Token → Option Leaf
  | leaf l => some l
  | _ => none

/-- Whether an operand can start at this token without an operator before it: such a token, coming
right after an operand, joins to it as if `AND` stood between them. A `NOT` does not. -/
def startsAtom : Token → Bool
  | leaf _ => true
  | openParen => true
  | _ => false

end Token

/-- The questions among a sequence of tokens, in order. -/
def leavesOf (ts : List Token) : List Leaf :=
  ts.filterMap Token.leaf?

end NoteSearch
