import NoteSearch.Proofs.Query.Grammar
import NoteSearch.Proofs.Query.Spelling

/-!
# Writing a query and reading it back

The spellable expressions are exactly those that survive being written and read, and exactly those that
are ever read (`NoteSearch.ofText?_text_iff`).

The text of a spellable expression scans into the tokens of `NoteSearch.Expr.spell`. What is left to show
is that these tokens derive the expression, because the parentheses stand where the grammar asks for
them: an `OR` always has them, so a written expression is never looser than a chain of `AND`.
-/

namespace NoteSearch

open Grammar

/-! ### The tokens derive the expression -/

/-- The level at which an expression is written: an `OR` is always in parentheses. -/
def Expr.level : Expr → Level
  | leaf _ => .atom
  | and _ _ => .conjunction
  | or _ _ => .atom
  | not _ => .operand

variable {e : Expr} {ts : List Token}

/-- Every written expression can start or end a chain of `OR`. -/
theorem derives_conjunction (h : Derives e.level ts e) : Derives .conjunction ts e := by
  cases e with
  | leaf l => exact .operand (.plain h)
  | and l r => exact h
  | or l r => exact .operand (.plain h)
  | not e => exact .operand h

/-- To the right of an `AND`, only an `AND` needs parentheses. -/
theorem derives_operand (h : Derives e.level ts e) : Derives .operand (grouped e.isAnd ts) e := by
  cases e with
  | leaf l => exact .plain h
  | and l r => exact .plain (.group (.conjunction h))
  | or l r => exact .plain h
  | not e => exact h

/-- Under a `NOT`, an `AND` and another `NOT` need parentheses. -/
theorem derives_atom (h : Derives e.level ts e) :
    Derives .atom (grouped (e.isAnd || e.isNot) ts) e := by
  cases e with
  | leaf l => exact h
  | and l r => exact .group (.conjunction h)
  | or l r => exact h
  | not e => exact .group (.conjunction (.operand h))

/-- **The tokens of an expression derive it**: its parentheses stand where the grammar asks for them. -/
theorem derives_spell (e : Expr) : Derives e.level e.spell e := by
  induction e with
  | leaf l => exact .leaf l
  | and l r ihl ihr => exact .conjoin (derives_conjunction ihl) (derives_operand ihr)
  | or l r ihl ihr =>
    exact .group (.disjoin (.conjunction (derives_conjunction ihl)) (derives_conjunction ihr))
  | not e ih => exact .negated (derives_atom ih)

/-! ### The round trip -/

/-- **What can be written is read back.** -/
theorem ofText?_text (he : e.Spellable) : Expr.ofText? e.text = some e := by
  have hscan := scan_render he endsLeaf_nil
  rw [List.append_nil, scan_nil, List.append_nil] at hscan
  rw [Expr.ofText?, tokens, Expr.text, String.toList_ofList, hscan]
  exact (Derives.conjunction (derives_conjunction (derives_spell e))).ofTokens?

/-- **The round trip, exactly where it can hold**: writing an expression and reading it gives it back
if and only if it is spellable, and the spellable expressions are those that are read from some text. -/
theorem ofText?_text_iff (e : Expr) :
    (Expr.ofText? e.text = some e ↔ e.Spellable) ∧
      ((∃ query, Expr.ofText? query = some e) ↔ e.Spellable) := by
  refine ⟨⟨spellable_of_ofText?, ofText?_text⟩, ⟨?_, fun he => ⟨e.text, ofText?_text he⟩⟩⟩
  rintro ⟨query, hquery⟩
  exact spellable_of_ofText? hquery

end NoteSearch
