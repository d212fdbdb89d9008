import NoteSearch.Query.Token

/-!
# Search expressions

A search expression says which notes are looked for: a tree of `AND`, `OR` and `NOT` over leaves. Two
expressions are equal when they have the same shape and the same leaves; no law of logic is built in,
so `a AND b` and `b AND a` are different expressions that find the same notes.

An expression is of any height. What is done with one – writing it, taking it apart into chips, putting it to
the database – goes down to its leaves; a program that does so on a stack of limited height gives up on very
high ones, and this is left out.
-/

namespace NoteSearch

/-- **A search expression.** -/
inductive Expr
  /-- A single question about a note. -/
  | leaf (leaf : Leaf)
  /-- Both hold. -/
  | and (left right : Expr)
  /-- At least one holds. -/
  | or (left right : Expr)
  /-- It does not hold. -/
  | not (inner : Expr)
  deriving DecidableEq, Repr, Inhabited

namespace Expr

/-- The leaves of an expression, from left to right. -/
def leaves : Expr → List Leaf
  | leaf l => [l]
  | and l r => l.leaves ++ r.leaves
  | or l r => l.leaves ++ r.leaves
  | not e => e.leaves

/-- Whether the outermost operator is `AND`. -/
def isAnd : Expr → Bool
  | and _ _ => true
  | _ => false

/-- Whether the outermost operator is `NOT`. -/
def isNot : Expr → Bool
  | not _ => true
  | _ => false

end Expr

end NoteSearch
