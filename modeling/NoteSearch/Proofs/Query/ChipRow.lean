import Mathlib.Data.List.Induction
import NoteSearch.Query.Chip

/-!
# The row of chips of an expression

Recovering a row of chips is the inverse of combining one: where an expression has a row of chips, that
row combines into the expression (`NoteSearch.Chip.combine_of_recover`). A row is a left spine, and the
induction runs down that spine, adding the last chip of the row at each step.

In the other direction, the row that is recovered from what a row of chips asks for is that row, but for
two things that its expression does not show (`NoteSearch.Chip.recover_of_combine`). So the expressions
with a row of chips are exactly those that a row of chips asks for
(`NoteSearch.Chip.exists_recover_iff_combine`).
-/

namespace NoteSearch

namespace Chip

variable {c : Chip} {chips : List Chip} {j : Junction} {e : Expr} {l : Leaf} {negated : Bool}

theorem isNamed_iff : c.isNamed = true ↔ (c.kind ≠ .pinned → c.value ≠ "") := by
  simp [isNamed, Classical.or_iff_not_imp_left]

/-- **A chip that was made for a leaf** asks for that leaf, and has the name that it needs. -/
theorem of_ofLeaf?_eq_some (h : ofLeaf? negated l = some c) :
    c.leaf = l ∧ c.negated = negated ∧ c.isNamed = true := by
  cases l with
  | tag name =>
    simp only [ofLeaf?, Option.ite_none_left_eq_some, Option.some.injEq] at h
    obtain ⟨hne, rfl⟩ := h
    exact ⟨rfl, rfl, isNamed_iff.mpr fun _ => hne⟩
  | folder name =>
    simp only [ofLeaf?, Option.ite_none_left_eq_some, Option.some.injEq] at h
    obtain ⟨hne, rfl⟩ := h
    exact ⟨rfl, rfl, isNamed_iff.mpr fun _ => hne⟩
  | pinned flag =>
    obtain rfl := Option.some.inj h
    cases flag <;> exact ⟨rfl, rfl, rfl⟩
  | text term => simp [ofLeaf?] at h

theorem expr_of_ofLeaf? (h : ofLeaf? negated l = some c) :
    c.expr = if negated then .not (.leaf l) else .leaf l := by
  obtain ⟨rfl, rfl, -⟩ := of_ofLeaf?_eq_some h
  rfl

/-- **A chip that asks for an expression asks for that expression.** -/
theorem expr_of_ofExpr? (h : ofExpr? e = some c) : c.expr = e := by
  unfold ofExpr? at h
  split at h
  · exact expr_of_ofLeaf? h
  · exact expr_of_ofLeaf? h
  · simp at h

/-- One more chip at the end of a row is one more operand on the right. -/
theorem combine_append_singleton (h : combine j chips = some e) (c : Chip) :
    combine j (chips ++ [c]) = some (j.join e c.expr) := by
  cases chips with
  | nil => simp [combine] at h
  | cons d chips =>
    obtain rfl := Option.some.inj h
    simp [combine, List.foldl_append]

/-- **A left spine is walked from its left end**: what holds of an expression that a single chip asks for,
and goes over from an expression to its join with one more of them, holds of every expression with a
spine. -/
theorem spine?_induction (P : List Chip → Expr → Prop)
    (hone : ∀ e c, ofExpr? e = some c → P [c] e)
    (hmore : ∀ chips e f c, P chips e → ofExpr? f = some c → P (chips ++ [c]) (j.join e f))
    (h : spine? j e = some chips) : P chips e := by
  induction e generalizing chips with
  | leaf l =>
    simp only [spine?, Option.map_eq_some_iff] at h
    obtain ⟨c, hc, rfl⟩ := h
    exact hone _ c hc
  | not e _ =>
    simp only [spine?, Option.map_eq_some_iff] at h
    obtain ⟨c, hc, rfl⟩ := h
    exact hone _ c hc
  | and l r ihl _ =>
    simp only [spine?, bind, pure, Option.ite_none_right_eq_some, Option.bind_eq_some_iff,
      Option.some.injEq] at h
    obtain ⟨rfl, row, hrow, c, hc, rfl⟩ := h
    exact hmore row l r c (ihl hrow) hc
  | or l r ihl _ =>
    simp only [spine?, bind, pure, Option.ite_none_right_eq_some, Option.bind_eq_some_iff,
      Option.some.injEq] at h
    obtain ⟨rfl, row, hrow, c, hc, rfl⟩ := h
    exact hmore row l r c (ihl hrow) hc

/-- **The operands of a left spine combine into the expression.** -/
theorem combine_of_spine? (h : spine? j e = some chips) : combine j chips = some e := by
  refine spine?_induction (fun chips e => combine j chips = some e) ?_ ?_ h
  · exact fun e c hc => congrArg some (expr_of_ofExpr? hc)
  · intro chips e f c ih hc
    rw [combine_append_singleton ih, expr_of_ofExpr? hc]

/-- **The recovered row asks for the expression.** -/
theorem combine_of_recover (h : recover (some e) = some (chips, j)) : combine j chips = some e := by
  simp only [recover, Option.map_eq_some_iff, Prod.mk.injEq] at h
  obtain ⟨row, hrow, rfl, rfl⟩ := h
  exact combine_of_spine? hrow

/-! ### The row that comes back

A row and the row recovered from its expression need not be the same. The value of a chip for the pinned
state may be anything, and is `true` or `false` afterwards; and a single chip asks for an expression
without an operator, which counts as `AND`. Nothing else is lost. -/

/-- A chip with its value as it is recovered: for the pinned state, `true` or `false`. -/
def normalized (c : Chip) : Chip :=
  match c.kind with
  | .pinned => ofPinned (c.value = "true") c.negated
  | _ => c

theorem ofLeaf?_leaf (h : c.isNamed = true) : ofLeaf? c.negated c.leaf = some c.normalized := by
  obtain ⟨kind, value, negated⟩ := c
  cases kind with
  | tag => exact if_neg (isNamed_iff.mp h (by simp))
  | folder => exact if_neg (isNamed_iff.mp h (by simp))
  | pinned => rfl

/-- **What a chip asks for is asked for by that chip.** -/
theorem ofExpr?_expr (h : c.isNamed = true) : ofExpr? c.expr = some c.normalized := by
  rw [← ofLeaf?_leaf h, expr]
  cases c.negated <;> rfl

/-- What a chip asks for is no chain. -/
theorem spine?_expr (h : c.isNamed = true) : spine? j c.expr = some [c.normalized] := by
  have hone : spine? j c.expr = (ofExpr? c.expr).map fun c => [c] := by
    rw [expr]
    cases c.negated <;> rfl
  rw [hone, ofExpr?_expr h]
  rfl

theorem spine?_join (e f : Expr) :
    spine? j (j.join e f) = do return (← spine? j e) ++ [← ofExpr? f] := by
  cases j <;> rfl

theorem combine_eq_none_iff : combine j chips = none ↔ chips = [] := by
  cases chips <;> simp [combine]

/-- A further chip does the same to rows that ask for the same. -/
theorem combine_append_congr {row : List Chip} (h : combine j row = combine j chips) (c : Chip) :
    combine j (row ++ [c]) = combine j (chips ++ [c]) := by
  cases hrow : combine j row with
  | none =>
    rw [combine_eq_none_iff.mp hrow, combine_eq_none_iff.mp (h.symm.trans hrow)]
  | some e =>
    rw [combine_append_singleton hrow, combine_append_singleton (h.symm.trans hrow)]

/-- **Rows are built at their right end**: what holds of a single chip, and goes over from a row to the
row with one more chip, holds of every row and its expression. -/
theorem combine_induction (P : List Chip → Expr → Prop) (hone : ∀ c, P [c] c.expr)
    (hmore : ∀ chips e c, chips ≠ [] → P chips e → P (chips ++ [c]) (j.join e c.expr))
    (h : combine j chips = some e) : P chips e := by
  induction chips using List.reverseRecOn generalizing e with
  | nil => simp [combine] at h
  | append_singleton chips c ih =>
    cases hrow : combine j chips with
    | none =>
      -- nothing is joined yet: the last chip is the only one
      obtain rfl := combine_eq_none_iff.mp hrow
      obtain rfl := Option.some.inj h
      exact hone c
    | some f =>
      rw [combine_append_singleton hrow] at h
      obtain rfl := Option.some.inj h
      have hne : chips ≠ [] := fun hnil => by simp [hnil, combine] at hrow
      exact hmore chips f c hne (ih hrow)

/-- The leaves of the expression of a row, chip by chip. -/
theorem leaves_of_combine (h : combine j chips = some e) : e.leaves = chips.map leaf := by
  have hone (c : Chip) : c.expr.leaves = [c.leaf] := by
    rw [expr]
    cases c.negated <;> rfl
  refine combine_induction (fun chips e => e.leaves = chips.map leaf) hone ?_ h
  intro chips e c _ ih
  rw [List.map_append, ← ih]
  cases j <;> exact congrArg (e.leaves ++ ·) (hone c)

/-- **The operands of the expression of a row are its chips.** -/
theorem spine?_of_combine (h : combine j chips = some e) (hnamed : ∀ c ∈ chips, c.isNamed = true) :
    spine? j e = some (chips.map normalized) := by
  refine combine_induction (fun chips e => (∀ c ∈ chips, c.isNamed = true) →
    spine? j e = some (chips.map normalized)) ?_ ?_ h hnamed
  · exact fun c hnamed => spine?_expr (hnamed c (by simp))
  · intro chips e c _ ih hnamed
    have hinit : spine? j e = some (chips.map normalized) := ih fun d hd => hnamed d (by simp [hd])
    rw [spine?_join, hinit, ofExpr?_expr (hnamed c (by simp))]
    simp

/-- The operator of a row shows in its expression, once it joins two chips. -/
theorem ofExpr_of_combine (h : combine j chips = some e) :
    Junction.ofExpr e = if chips.length = 1 then .and else j := by
  refine combine_induction
    (fun chips e => Junction.ofExpr e = if chips.length = 1 then .and else j) ?_ ?_ h
  · intro c
    rw [expr]
    cases c.negated <;> rfl
  · intro chips e c hne _
    rw [if_neg (by simpa using hne)]
    cases j <;> rfl

/-- A single chip asks for the same under both operators. -/
theorem combine_of_single (h : combine j chips = some e) :
    combine (if chips.length = 1 then .and else j) chips = some e := by
  split
  · next hlen =>
    obtain ⟨c, rfl⟩ := List.length_eq_one_iff.mp hlen
    exact h
  · exact h

/-- **Recovering undoes combining**, up to the values of the chips for the pinned state and the operator
of a single chip. -/
theorem recover_of_combine (h : combine j chips = some e) (hnamed : ∀ c ∈ chips, c.isNamed = true) :
    recover (some e) = some (chips.map normalized, if chips.length = 1 then .and else j) := by
  rw [recover, ofExpr_of_combine h, spine?_of_combine (combine_of_single h) hnamed]
  rfl

/-! ### Which expressions have a row

Every chip that is recovered could have been made: a leaf with an empty name has none. So the expressions
with a row are exactly those that some row of such chips asks for. -/

theorem isNamed_of_ofExpr? (h : ofExpr? e = some c) : c.isNamed = true := by
  unfold ofExpr? at h
  split at h
  · exact (of_ofLeaf?_eq_some h).2.2
  · exact (of_ofLeaf?_eq_some h).2.2
  · simp at h

/-- **Every recovered chip has the name that it needs.** -/
theorem isNamed_of_spine? (h : spine? j e = some chips) : ∀ c ∈ chips, c.isNamed = true := by
  refine spine?_induction (fun chips _ => ∀ c ∈ chips, c.isNamed = true) ?_ ?_ h
  · intro e c hc d hd
    rw [List.mem_singleton.mp hd]
    exact isNamed_of_ofExpr? hc
  · intro chips e f c ih hc d hd
    rcases List.mem_append.mp hd with hd | hd
    · exact ih d hd
    · rw [List.mem_singleton.mp hd]
      exact isNamed_of_ofExpr? hc

theorem isNamed_of_recover {q : Option Expr} (h : recover q = some (chips, j)) :
    ∀ c ∈ chips, c.isNamed = true := by
  cases q with
  | none =>
    obtain ⟨rfl, -⟩ := Prod.mk.inj (Option.some.inj h)
    simp
  | some e =>
    simp only [recover, Option.map_eq_some_iff, Prod.mk.injEq] at h
    obtain ⟨row, hrow, rfl, -⟩ := h
    exact isNamed_of_spine? hrow

/-- **Recovering is the exact partial inverse of combining.** An expression has a row of chips if and only
if some row of chips, not empty and each with the name that it needs, asks for it under some operator. The
row that is recovered asks for what it was recovered from. And two or more chips come back under their
operator as they were, but that the value of a chip for the pinned state is `true` or `false`. -/
theorem exists_recover_iff_combine :
    (∀ e, (∃ row, recover (some e) = some row) ↔
        ∃ chips j, chips ≠ [] ∧ (∀ c ∈ chips, c.isNamed = true) ∧ combine j chips = some e) ∧
      (∀ q chips j, recover q = some (chips, j) → combine j chips = q) ∧
      ∀ chips j, 2 ≤ chips.length → (∀ c ∈ chips, c.isNamed = true) →
        recover (combine j chips) = some (chips.map normalized, j) := by
  refine ⟨fun e => ⟨?_, ?_⟩, fun q chips j h => ?_, fun chips j hlen hnamed => ?_⟩
  · rintro ⟨⟨chips, j⟩, hrow⟩
    have hcombine := combine_of_recover hrow
    have hne : chips ≠ [] := fun hnil => by simp [hnil, combine] at hcombine
    exact ⟨chips, j, hne, isNamed_of_recover hrow, hcombine⟩
  · rintro ⟨chips, j, -, hnamed, hcombine⟩
    exact ⟨_, recover_of_combine hcombine hnamed⟩
  · cases q with
    | none =>
      obtain ⟨rfl, rfl⟩ := Prod.mk.inj (Option.some.inj h)
      rfl
    | some e => exact combine_of_recover h
  · cases hcombine : combine j chips with
    | none =>
      rw [combine_eq_none_iff.mp hcombine] at hlen
      exact absurd hlen (by simp)
    | some e => rw [recover_of_combine hcombine hnamed, if_neg (by omega)]

/-- A tag, a folder that is excluded, and a pinned state whose value is neither `true` nor `false`, joined
by `OR`: they come back with that value replaced, and what comes back asks for the same. -/
theorem exists_recover_iff_combine_threeChips :
    let chips : List Chip := [⟨.tag, "to do", false⟩, ⟨.folder, "old", true⟩, ⟨.pinned, "yes", false⟩]
    let row : List Chip := [⟨.tag, "to do", false⟩, ⟨.folder, "old", true⟩, ⟨.pinned, "false", false⟩]
    2 ≤ chips.length ∧ (∀ c ∈ chips, c.isNamed = true) ∧
      recover (combine .or chips) = some (row, .or) ∧ combine .or row = combine .or chips := by
  intro chips row
  have hlen : 2 ≤ chips.length := by decide
  have hnamed : ∀ c ∈ chips, c.isNamed = true := by decide
  have hrow : recover (combine .or chips) = some (row, .or) :=
    exists_recover_iff_combine.2.2 chips .or hlen hnamed
  exact ⟨hlen, hnamed, hrow, exists_recover_iff_combine.2.1 _ row .or hrow⟩

end Chip

end NoteSearch
