import NoteSearch.Query.Render

/-!
# Sketches of expressions

Where expressions come from outside – from a program that builds them piece by piece – an operand may
still be missing, or be something that is no expression at all. A sketch is an expression tree with
room for both. A missing operand asks for nothing, and so stands for every note; a foreign one has no
meaning and is refused wherever its meaning is needed.
-/

namespace NoteSearch

/-- **An expression tree that need not be finished.** -/
inductive Sketch
  /-- Nothing was given. -/
  | gap
  /-- Something was given that is no expression. -/
  | foreign
  /-- A single question about a note. -/
  | leaf (leaf : Leaf)
  /-- Both hold. -/
  | and (left right : Sketch)
  /-- At least one holds. -/
  | or (left right : Sketch)
  /-- It does not hold. -/
  | not (inner : Sketch)
  deriving DecidableEq, Repr, Inhabited

/-- **The refusal of a foreign or missing operand.** -/
inductive NotAnExpr
  | notAnExpr
  deriving DecidableEq, Repr

namespace Sketch

/-- An expression is a sketch with nothing missing. -/
def ofExpr : Expr → Sketch
  | .leaf l => leaf l
  | .and l r => and (ofExpr l) (ofExpr r)
  | .or l r => or (ofExpr l) (ofExpr r)
  | .not e => not (ofExpr e)

/-- The sketch of an expression that may be absent as a whole. -/
def ofOption : Option Expr → Sketch
  | none => gap
  | some e => ofExpr e

/-- The expression that a finished sketch is. -/
def toExpr? : Sketch → Option Expr
  | gap => none
  | foreign => none
  | leaf l => some (.leaf l)
  | and l r => do return .and (← l.toExpr?) (← r.toExpr?)
  | or l r => do return .or (← l.toExpr?) (← r.toExpr?)
  | not e => do return .not (← e.toExpr?)

/-- **The text of a sketch**, which only a finished one has. -/
def text (s : Sketch) : Except NotAnExpr String :=
  match s.toExpr? with
  | some e => .ok e.text
  | none => .error .notAnExpr

end Sketch

end NoteSearch
