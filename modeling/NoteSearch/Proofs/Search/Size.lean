import Mathlib.Order.Lattice
import NoteSearch.Search.Statement

/-!
# A part is no larger than the whole

The engine refuses a condition for its size, and it measures two things: how high a stack gets while the
condition is read, and how high its tree is. A condition that is taken has only parts that would be taken by
themselves (`NoteSearch.Condition.accept_of_and` and its companions). So reads of parts never fail where the
read of the whole does not.

This is not quite evident, because both measures depend on where a condition stands: an `OR` is put in
brackets inside an `AND` and not inside an `OR`, and an operand of a chain is added to the chain before it.

* The load of a condition on its own is at most that of the brackets around it, wherever it stands
  (`NoteSearch.Condition.weight_le_of_joint`).
* As a function of the height of the chain before it, the height after the operands of a condition is
  `max (x + k) m` for two numbers `k` and `m` (`NoteSearch.Condition.climbs_heightOn`). All that is needed of
  the height follows from this form.
-/

namespace NoteSearch

namespace Condition

variable {c l r : Condition} {j j' : Joint}

/-! ### The stack -/

/-- The greatest height over an operand of a chain. -/
def Load.weight (l : Load) : Nat :=
  max l.head l.later

/-- The height over a statement that asks for a condition. -/
theorem stackHeight_eq (c : Condition) : c.stackHeight = stackBase + max 3 ((c.load .and).weight + 2) := by
  simp only [stackHeight, comparisonLoad, Load.append, Load.top, Load.weight]
  omega

theorem Load.weight_append (l r : Load) : (l.append r).weight = max l.weight r.weight := by
  simp only [Load.append, Load.weight]
  omega

theorem Load.top_le_top_append_left (l r : Load) : l.top ≤ (l.append r).top := by
  simp only [Load.append, Load.top]
  omega

theorem Load.top_le_top_append_right (l r : Load) : r.top ≤ (l.append r).top := by
  simp only [Load.append, Load.top]
  omega

/-- **On its own a condition weighs no more than its brackets**, wherever they are. -/
theorem weight_le_of_joint (c : Condition) (j : Joint) : (c.load .and).weight ≤ (c.load j).top + 1 := by
  cases c <;> cases j <;>
    simp only [load, comparisonLoad, lookupLoad, patternLoad, orLoad, andLoad, notLoad,
      Load.bracketed, Load.weight, Load.top, Load.append] <;> omega

theorem stackHeight_le_and_left (l r : Condition) : l.stackHeight ≤ (and l r).stackHeight := by
  rw [stackHeight_eq, stackHeight_eq]
  show _ ≤ stackBase + max 3 (((l.load .and).append (r.load .and)).weight + 2)
  rw [Load.weight_append]
  omega

theorem stackHeight_le_and_right (l r : Condition) : r.stackHeight ≤ (and l r).stackHeight := by
  rw [stackHeight_eq, stackHeight_eq]
  show _ ≤ stackBase + max 3 (((l.load .and).append (r.load .and)).weight + 2)
  rw [Load.weight_append]
  omega

theorem stackHeight_le_or_left (l r : Condition) : l.stackHeight ≤ (or l r).stackHeight := by
  have hweight := l.weight_le_of_joint .or
  have htop := Load.top_le_top_append_left (l.load .or) (r.load .or)
  rw [stackHeight_eq, stackHeight_eq]
  show _ ≤ stackBase + max 3 (max (((l.load .or).append (r.load .or)).top + 1) 0 + 2)
  omega

theorem stackHeight_le_or_right (l r : Condition) : r.stackHeight ≤ (or l r).stackHeight := by
  have hweight := r.weight_le_of_joint .or
  have htop := Load.top_le_top_append_right (l.load .or) (r.load .or)
  rw [stackHeight_eq, stackHeight_eq]
  show _ ≤ stackBase + max 3 (max (((l.load .or).append (r.load .or)).top + 1) 0 + 2)
  omega

theorem stackHeight_le_not (c : Condition) : c.stackHeight ≤ (not c).stackHeight := by
  have hweight := c.weight_le_of_joint .not
  rw [stackHeight_eq, stackHeight_eq]
  show _ ≤ stackBase + max 3 (max ((c.load .not).top + 1) 0 + 2)
  omega

/-! ### The tree -/

/-- As the first of a chain, a condition is as high as anywhere. -/
theorem heightOn_none (c : Condition) (j : Joint) : c.heightOn j none = c.heightOn .not none := by
  cases c <;> cases j <;> rfl

/-- **A height as a function of the chain before it.** After `k` operands it is `max (x + k) m` where it was
`x` before them. Without a chain before them it is `m`, or one less. -/
def Climbs (height : Option Nat → Nat) : Prop :=
  ∃ k m, (∀ x, height (some x) = max (x + k) m) ∧ 0 < k ∧
    height none ≤ m ∧ m ≤ height none + 1 ∧ k + 2 ≤ height none

theorem Climbs.three_le {height : Option Nat → Nat} (h : Climbs height) : 3 ≤ height none := by
  obtain ⟨k, m, -, hk, -, -, hkn⟩ := h
  omega

/-- A single operand. -/
theorem climbs_addOperand {n : Nat} (hn : 3 ≤ n) : Climbs (addOperand n) := by
  refine ⟨1, n + 1, fun x => ?_, Nat.one_pos, ?_, ?_, ?_⟩ <;> simp only [addOperand] <;> omega

/-- Operands, and then more operands of the same chain. -/
theorem Climbs.comp {f g : Option Nat → Nat} (hf : Climbs f) (hg : Climbs g) :
    Climbs fun chain => g (some (f chain)) := by
  obtain ⟨k, m, hfx, hk, hfm, hmf, hkf⟩ := hf
  obtain ⟨k', m', hgx, hk', hgm, hmg, hkg⟩ := hg
  refine ⟨k + k', max (m + k') m', fun x => ?_, ?_, ?_, ?_, ?_⟩ <;> simp only [hgx, hfx] at * <;> omega

/-- **The height after the operands of a condition** is of this form, whatever chain they belong to. -/
theorem climbs_heightOn (c : Condition) (j : Joint) : Climbs fun chain => c.heightOn j chain := by
  induction c generalizing j with
  | constant value => exact climbs_addOperand (n := comparisonHeight) (by decide)
  | carries name => exact climbs_addOperand (n := lookupHeight) (by decide)
  | filedIn name => exact climbs_addOperand (n := lookupHeight) (by decide)
  | pinnedIs flag => exact climbs_addOperand (n := comparisonHeight) (by decide)
  | mentions term =>
    have pattern : Climbs (addOperand patternHeight) := climbs_addOperand (by decide)
    cases j with
    | or => exact pattern.comp pattern
    | and => exact climbs_addOperand (n := patternHeight + 1) (by decide)
    | not => exact climbs_addOperand (n := patternHeight + 1) (by decide)
  | and l r ihl ihr =>
    have chained := (ihl .and).comp (ihr .and)
    cases j with
    | and => exact chained
    | or => exact climbs_addOperand chained.three_le
    | not => exact climbs_addOperand chained.three_le
  | or l r ihl ihr =>
    have chained := (ihl .or).comp (ihr .or)
    cases j with
    | or => exact chained
    | and => exact climbs_addOperand chained.three_le
    | not => exact climbs_addOperand chained.three_le
  | not c ih => exact climbs_addOperand (Nat.le_succ_of_le (ih .not).three_le)

theorem lt_heightOn_some (c : Condition) (j : Joint) (x : Nat) : x < c.heightOn j (some x) := by
  obtain ⟨k, m, hx, hk, -⟩ := c.climbs_heightOn j
  simp only [hx]
  omega

theorem heightOn_none_le_some (c : Condition) (j : Joint) (x : Nat) :
    c.heightOn j none ≤ c.heightOn j (some x) := by
  obtain ⟨k, m, hx, -, hm, -⟩ := c.climbs_heightOn j
  simp only [hx] at *
  omega

/-- **The height of a condition in the statement**, in terms of its height anywhere as the first of a chain. -/
theorem heightOn_comparison_le (c : Condition) (j : Joint) :
    c.heightOn .and (some comparisonHeight) ≤ c.heightOn j none + 1 := by
  obtain ⟨k, m, hx, hk, -, hm, hkn⟩ := c.climbs_heightOn .and
  have hnone : c.heightOn .and none = c.heightOn j none := by
    rw [heightOn_none c .and, heightOn_none c j]
  simp only [hx, comparisonHeight] at *
  omega

/-- A condition in the statement is no higher than it is in the statement behind other conditions. -/
theorem heightOn_comparison_le_some (c : Condition) {x : Nat} (hx : comparisonHeight ≤ x) :
    c.heightOn .and (some comparisonHeight) ≤ c.heightOn .and (some x) := by
  obtain ⟨k, m, hk, -⟩ := c.climbs_heightOn .and
  simp only [hk]
  omega

theorem treeHeight_le_and_left (l r : Condition) : l.treeHeight ≤ (and l r).treeHeight := by
  have hlt := r.lt_heightOn_some .and (l.heightOn .and (some comparisonHeight))
  simp only [treeHeight, innerHeight]
  show _ ≤ r.heightOn .and (some (l.heightOn .and (some comparisonHeight))) + _
  omega

theorem treeHeight_le_and_right (l r : Condition) : r.treeHeight ≤ (and l r).treeHeight := by
  have hlt := l.lt_heightOn_some .and comparisonHeight
  have hle := r.heightOn_comparison_le_some (Nat.le_of_lt hlt)
  simp only [treeHeight, innerHeight]
  show _ ≤ r.heightOn .and (some (l.heightOn .and (some comparisonHeight))) + _
  omega

theorem treeHeight_le_or_left (l r : Condition) : l.treeHeight ≤ (or l r).treeHeight := by
  have hle := l.heightOn_comparison_le .or
  have hlt := r.lt_heightOn_some .or (l.heightOn .or none)
  simp only [treeHeight, innerHeight]
  show _ ≤ max comparisonHeight (r.heightOn .or (some (l.heightOn .or none))) + 1 + _
  omega

theorem treeHeight_le_or_right (l r : Condition) : r.treeHeight ≤ (or l r).treeHeight := by
  have hle := r.heightOn_comparison_le .or
  have hmono := r.heightOn_none_le_some .or (l.heightOn .or none)
  simp only [treeHeight, innerHeight]
  show _ ≤ max comparisonHeight (r.heightOn .or (some (l.heightOn .or none))) + 1 + _
  omega

theorem treeHeight_le_not (c : Condition) : c.treeHeight ≤ (not c).treeHeight := by
  have hle := c.heightOn_comparison_le .not
  simp only [treeHeight, innerHeight]
  show _ ≤ max comparisonHeight (c.heightOn .not none + 1) + 1 + _
  omega

/-! ### The verdict -/

/-- A condition is taken when neither measure is over its limit. -/
theorem accept_eq_ok_iff (c : Condition) :
    c.accept = .ok () ↔ c.stackHeight ≤ maxStack ∧ c.treeHeight ≤ maxHeight := by
  unfold accept
  split
  · simp only [reduceCtorEq, false_iff]; omega
  split
  · simp only [reduceCtorEq, false_iff]; omega
  · simp only [true_iff]; omega

/-- What is no larger than a condition that is taken is taken. -/
theorem accept_of_le {c d : Condition} (hstack : c.stackHeight ≤ d.stackHeight)
    (htree : c.treeHeight ≤ d.treeHeight) (h : d.accept = .ok ()) : c.accept = .ok () := by
  rw [accept_eq_ok_iff] at h ⊢
  omega

/-- **Of a conjunction that is taken, both operands are taken.** -/
theorem accept_of_and (h : (and l r).accept = .ok ()) : l.accept = .ok () ∧ r.accept = .ok () :=
  ⟨accept_of_le (stackHeight_le_and_left l r) (treeHeight_le_and_left l r) h,
    accept_of_le (stackHeight_le_and_right l r) (treeHeight_le_and_right l r) h⟩

/-- **Of a disjunction that is taken, both operands are taken.** -/
theorem accept_of_or (h : (or l r).accept = .ok ()) : l.accept = .ok () ∧ r.accept = .ok () :=
  ⟨accept_of_le (stackHeight_le_or_left l r) (treeHeight_le_or_left l r) h,
    accept_of_le (stackHeight_le_or_right l r) (treeHeight_le_or_right l r) h⟩

/-- **Of a negation that is taken, the operand is taken.** -/
theorem accept_of_not (h : (not c).accept = .ok ()) : c.accept = .ok () :=
  accept_of_le (stackHeight_le_not c) (treeHeight_le_not c) h

end Condition

end NoteSearch
