import NoteSearch.Query.Sketch
import NoteSearch.Search.Condition

/-!
# Predicates

An expression is answered in either of two places: by the database, from its tables, or in memory, from
notes that have been read already. A predicate carries both answers side by side, a condition for the
database and a test for a note in memory, and the operators build both in step.

The predicate that every note satisfies has no condition at all: reading with it is reading everything.
An operand that is missing stands for it.
-/

namespace NoteSearch

open Text

/-- **A predicate on notes.** -/
structure Predicate where
  /-- What the database tests; nothing for the predicate that holds of every note. -/
  clause : Option Condition
  /-- What is tested of a note in memory. -/
  test : NoteView → Bool

namespace Predicate

/-- The predicate that every note satisfies. -/
def everything : Predicate :=
  ⟨none, fun _ => true⟩

/-- Whether the database has nothing to test. -/
def matchesEverything (p : Predicate) : Bool :=
  p.clause.isNone

/-- Both hold. -/
def conj (p q : Predicate) : Predicate :=
  match p.clause, q.clause with
  | none, _ => q
  | _, none => p
  | some c, some d => ⟨some (c.conj d), fun n => p.test n && q.test n⟩

/-- At least one holds. -/
def disj (p q : Predicate) : Predicate :=
  match p.clause, q.clause with
  | none, _ => everything
  | _, none => everything
  | some c, some d => ⟨some (c.disj d), fun n => p.test n || q.test n⟩

/-- It does not hold. -/
def neg (p : Predicate) : Predicate :=
  match p.clause with
  | none => ⟨some (.constant false), fun _ => false⟩
  | some c => ⟨some c.neg, fun n => !p.test n⟩

/-- The parameters of the condition. -/
def params (p : Predicate) : List (String × String) :=
  (p.clause.map Condition.params).getD []

end Predicate

/-- **What a leaf says about a note in memory.** Names are equal, and terms are found, without regard
to the case of ASCII letters. -/
def Leaf.test : Leaf → NoteView → Bool
  | tag name, n => n.tags.any fun t => foldCase t == foldCase name
  | folder name, n => n.folder.any fun f => foldCase f == foldCase name
  | text term, n =>
    hasInfix (foldCase term).toList (foldCase n.title).toList
      || hasInfix (foldCase term).toList (foldCase n.body).toList
  | pinned flag, n => n.pinned == flag

namespace Predicate

/-- The predicate of a leaf. -/
def ofLeaf (l : Leaf) : Predicate :=
  ⟨some l.condition, l.test⟩

/-- **The predicate of an expression.** -/
def ofExpr : Expr → Predicate
  | .leaf l => ofLeaf l
  | .and l r => (ofExpr l).conj (ofExpr r)
  | .or l r => (ofExpr l).disj (ofExpr r)
  | .not e => (ofExpr e).neg

/-- **The predicate of a sketch**: what is missing asks for nothing, and what is foreign has no
predicate. -/
def ofSketch : Sketch → Except NotAnExpr Predicate
  | .gap => .ok everything
  | .foreign => .error .notAnExpr
  | .leaf l => .ok (ofLeaf l)
  | .and l r => do return (← ofSketch l).conj (← ofSketch r)
  | .or l r => do return (← ofSketch l).disj (← ofSketch r)
  | .not s => do return (← ofSketch s).neg

/-- An expression has the same predicate as the sketch that it is. -/
theorem ofSketch_ofExpr (e : Expr) : ofSketch (Sketch.ofExpr e) = .ok (ofExpr e) := by
  induction e with
  | leaf l => rfl
  | and l r ihl ihr => simp [Sketch.ofExpr, ofSketch, ofExpr, ihl, ihr, bind, Except.bind, pure, Except.pure]
  | or l r ihl ihr => simp [Sketch.ofExpr, ofSketch, ofExpr, ihl, ihr, bind, Except.bind, pure, Except.pure]
  | not e ih => simp [Sketch.ofExpr, ofSketch, ofExpr, ih, bind, Except.bind, pure, Except.pure]

end Predicate

end NoteSearch
