import NoteSearch.Search.Read

/-!
# The condition of an expression

A predicate is put together so that no constant is left inside its condition. In an expression there is none
to begin with: every leaf asks for something. So the condition of an expression has the shape of the
expression, operator by operator, but for a negated pin, which is turned around
(`NoteSearch.Expr.condition`, `NoteSearch.Predicate.clause_ofExpr`).
-/

namespace NoteSearch

namespace Condition

/-- Whether a condition is a constant. -/
def isConstant : Condition → Bool
  | constant _ => true
  | _ => false

variable {c d : Condition}

/-- Where there are no constants, conditions are joined as they are. -/
theorem conj_eq_and (hc : c.isConstant = false) (hd : d.isConstant = false) :
    c.conj d = and c d := by
  cases c <;> cases d <;> first | rfl | simp [isConstant] at hc hd

theorem disj_eq_or (hc : c.isConstant = false) (hd : d.isConstant = false) :
    c.disj d = or c d := by
  cases c <;> cases d <;> first | rfl | simp [isConstant] at hc hd

theorem isConstant_neg (c : Condition) : c.neg.isConstant = c.isConstant := by
  cases c <;> rfl

end Condition

/-- **The condition of an expression.** -/
def Expr.condition : Expr → Condition
  | leaf l => l.condition
  | and l r => .and l.condition r.condition
  | or l r => .or l.condition r.condition
  | not e => e.condition.neg

theorem Leaf.isConstant_condition (l : Leaf) : l.condition.isConstant = false := by
  cases l <;> rfl

/-- The condition of an expression asks for something. -/
theorem Expr.isConstant_condition (e : Expr) : e.condition.isConstant = false := by
  induction e with
  | leaf l => exact l.isConstant_condition
  | and l r _ _ => rfl
  | or l r _ _ => rfl
  | not e ih => exact (Condition.isConstant_neg _).trans ih

/-- **What the database tests for an expression** is the condition of the expression. -/
theorem Predicate.clause_ofExpr (e : Expr) : (ofExpr e).clause = some e.condition := by
  induction e with
  | leaf l => rfl
  | and l r ihl ihr =>
    simp only [ofExpr, conj, ihl, ihr, Expr.condition,
      Condition.conj_eq_and l.isConstant_condition r.isConstant_condition]
  | or l r ihl ihr =>
    simp only [ofExpr, disj, ihl, ihr, Expr.condition,
      Condition.disj_eq_or l.isConstant_condition r.isConstant_condition]
  | not e ih => simp only [ofExpr, neg, ih, Expr.condition]

/-- **A search for an expression** is a read with its condition, if the engine takes it. -/
theorem Database.search_some (d : Database) (e : Expr) :
    d.search (some e) = (e.condition.accept.mapError (.unreadable .note) >>= fun _ =>
      d.read .note >>= fun s => (s.fetchWhere e.condition).mapError (.unreadable .note)) := by
  simp only [search, fetchMatching, Predicate.clause_ofExpr]

end NoteSearch
