import Mathlib
import NoteSearch.Proofs.Query.Reading
import NoteSearch.Proofs.Search.Agreement
import NoteSearch.Proofs.Search.Lowering
import NoteSearch.Proofs.Search.Size
import NoteSearch.Proofs.Store.Order

/-!
# The results of a search form a Boolean algebra

What the database finds for an expression is a part of the list of all notes, in the order of that list. The
operators of expressions are those of parts: `AND` is the intersection, `OR` the union, and `NOT` the
complement among all notes. So a note is found by an expression or by its negation, and never by both, even
if it is filed in no folder, carries no tag, or has the same tag name twice
(`NoteSearch.Database.fetchMatching_and_or_not_iff`).

The engine puts a limit to this. It does not take a condition that is too large, and then there is no result
at all, even where both operands have one (`NoteSearch.Database.fetchMatching_or_eq_error`). Where a result
is, it is the right one: the operands of an expression are no larger than the expression itself, so they
have results too.
-/

namespace NoteSearch

/-! ### Parts of a list -/

namespace Store.Keyed

variable {s : Store} {n : Note}

/-- **A note is in the list of selected rows** exactly when its row was selected: the number in a view leads
back to the row. -/
theorem mem_map_view_filter (hs : s.Keyed) (hn : n ∈ s.active) (p : Note → Bool) :
    s.view n ∈ (s.active.filter p).map s.view ↔ p n = true := by
  rw [List.mem_map]
  constructor
  · rintro ⟨m, hm, heq⟩
    obtain ⟨hmem, hp⟩ := List.mem_filter.mp hm
    have hid : m.id = n.id := congrArg NoteView.id heq
    rwa [← List.inj_on_of_nodup_map hs.nodup_active hmem hn hid]
  · exact fun hp => ⟨n, List.mem_filter.mpr ⟨hn, hp⟩, rfl⟩

end Store.Keyed

/-- Selecting from the list of all notes is selecting rows. -/
theorem Store.filter_fetchAll {s : Store} {q : NoteView → Bool} {p : Note → Bool}
    (h : ∀ n ∈ s.active, q (s.view n) = p n) :
    s.fetchAll.filter q = (s.active.filter p).map s.view := by
  rw [fetchAll, List.filter_map]
  exact congrArg (List.map s.view) (List.filter_congr h)

/-! ### Terms within the limit -/

/-- The patterns of all terms in an expression are within the limit. -/
def Expr.Fitting (e : Expr) : Prop :=
  ∀ term, Leaf.text term ∈ e.leaves → Like.Fitting term

namespace Condition

/-- **Of a condition turned around that is taken, the condition is taken.** A condition on the pin is as
large either way. -/
theorem accept_of_neg {c : Condition} (h : c.neg.accept = .ok ()) : c.accept = .ok () := by
  cases c with
  | constant value => rfl
  | pinnedIs flag => rfl
  | carries name | filedIn name | mentions term => rfl
  | and l r | or l r | not c => exact accept_of_not h

theorem terms_neg (c : Condition) : c.neg.terms = c.terms := by
  cases c <;> rfl

end Condition

/-- The terms of a condition are those of the expression. -/
theorem Expr.mem_terms_condition {e : Expr} {term : String} :
    term ∈ e.condition.terms ↔ Leaf.text term ∈ e.leaves := by
  induction e with
  | leaf l => cases l <;> simp [condition, Leaf.condition, Condition.terms, leaves]
  | and l r ihl ihr | or l r ihl ihr =>
    simp only [condition, Condition.terms, leaves, List.mem_append, ihl, ihr]
  | not e ih =>
    rw [condition, Condition.terms_neg]
    exact ih

namespace Expr.Fitting

variable {a b : Expr}

theorem and (ha : a.Fitting) (hb : b.Fitting) : (Expr.and a b).Fitting :=
  fun term h => (List.mem_append.mp h).elim (ha term) (hb term)

theorem or (ha : a.Fitting) (hb : b.Fitting) : (Expr.or a b).Fitting :=
  fun term h => (List.mem_append.mp h).elim (ha term) (hb term)

theorem not (ha : a.Fitting) : (Expr.not a).Fitting :=
  ha

end Expr.Fitting

/-! ### Expressions that are taken -/

namespace Predicate

variable {a b : Expr}

theorem taken_ofExpr_iff {e : Expr} : (ofExpr e).Taken ↔ e.condition.accept = .ok () := by
  simp [Taken, clause_ofExpr]

/-- **Of an `AND` that is taken, both operands are taken.** -/
theorem Taken.of_and (h : (ofExpr (.and a b)).Taken) : (ofExpr a).Taken ∧ (ofExpr b).Taken := by
  rw [taken_ofExpr_iff] at *
  rw [taken_ofExpr_iff]
  exact Condition.accept_of_and h

/-- **Of an `OR` that is taken, both operands are taken.** -/
theorem Taken.of_or (h : (ofExpr (.or a b)).Taken) : (ofExpr a).Taken ∧ (ofExpr b).Taken := by
  rw [taken_ofExpr_iff] at *
  rw [taken_ofExpr_iff]
  exact Condition.accept_of_or h

/-- **Of a `NOT` that is taken, the operand is taken.** A condition on the pin is as large turned around. -/
theorem Taken.of_not (h : (ofExpr (.not a)).Taken) : (ofExpr a).Taken := by
  rw [taken_ofExpr_iff] at *
  exact Condition.accept_of_neg h

end Predicate

/-- A row is pinned exactly when it is not unpinned. -/
theorem Store.replies_pinned_not (s : Store) (n : Note) (flag : Bool) :
    s.replies n (.pinned !flag) = !s.replies n (.pinned flag) := by
  show (n.pinned == !flag) = !(n.pinned == flag)
  cases n.pinned <;> cases flag <;> rfl

namespace Database

variable {s : Store} {a b : Expr}

/-- **What the database finds for an expression** that is taken. -/
theorem fetchMatching_ofExpr {e : Expr} (he : e.Fitting) (htaken : (Predicate.ofExpr e).Taken) :
    (holding s).fetchMatching (.ofExpr e)
      = .ok ((s.active.filter fun n => e.condition.answer (s.replies n)).map s.view) :=
  fetchMatching_eq (Predicate.clause_ofExpr e) (Predicate.taken_ofExpr_iff.mp htaken)
    fun _ ht => he _ (Expr.mem_terms_condition.mp ht)

/-- **For an expression that is not taken** there is no result. -/
theorem fetchMatching_ofExpr_eq_error {e : Expr} (h : ¬(Predicate.ofExpr e).Taken) :
    ∃ fault, (holding s).fetchMatching (.ofExpr e) = .error (.unreadable .note fault) := by
  rw [Predicate.taken_ofExpr_iff] at h
  cases haccept : e.condition.accept with
  | ok => exact absurd haccept h
  | error fault => exact ⟨fault, fetchMatching_eq_error (Predicate.clause_ofExpr e) haccept⟩

/-- An expression that has a result is taken. -/
theorem taken_of_fetchMatching_eq_ok {e : Expr} {found : List NoteView}
    (h : (holding s).fetchMatching (.ofExpr e) = .ok found) : (Predicate.ofExpr e).Taken := by
  by_contra hnot
  obtain ⟨fault, herror⟩ := fetchMatching_ofExpr_eq_error (s := s) hnot
  rw [herror] at h
  cases h

/-- **`AND` is intersection.** -/
theorem fetchMatching_and (hs : s.Keyed) (ha : a.Fitting) (hb : b.Fitting)
    (h : (Predicate.ofExpr (.and a b)).Taken) :
    ∃ as bs, (holding s).fetchMatching (.ofExpr a) = .ok as
      ∧ (holding s).fetchMatching (.ofExpr b) = .ok bs
      ∧ (holding s).fetchMatching (.ofExpr (.and a b))
          = .ok (s.fetchAll.filter fun v => v ∈ as ∧ v ∈ bs) := by
  refine ⟨_, _, fetchMatching_ofExpr ha h.of_and.1, fetchMatching_ofExpr hb h.of_and.2, ?_⟩
  rw [fetchMatching_ofExpr (ha.and hb) h]
  refine congrArg Except.ok (Store.filter_fetchAll fun n hn => ?_).symm
  simp only [hs.mem_map_view_filter hn, Bool.decide_and, Bool.decide_eq_true]
  rfl

/-- **`OR` is union.** -/
theorem fetchMatching_or (hs : s.Keyed) (ha : a.Fitting) (hb : b.Fitting)
    (h : (Predicate.ofExpr (.or a b)).Taken) :
    ∃ as bs, (holding s).fetchMatching (.ofExpr a) = .ok as
      ∧ (holding s).fetchMatching (.ofExpr b) = .ok bs
      ∧ (holding s).fetchMatching (.ofExpr (.or a b))
          = .ok (s.fetchAll.filter fun v => v ∈ as ∨ v ∈ bs) := by
  refine ⟨_, _, fetchMatching_ofExpr ha h.of_or.1, fetchMatching_ofExpr hb h.of_or.2, ?_⟩
  rw [fetchMatching_ofExpr (ha.or hb) h]
  refine congrArg Except.ok (Store.filter_fetchAll fun n hn => ?_).symm
  simp only [hs.mem_map_view_filter hn, Bool.decide_or, Bool.decide_eq_true]
  rfl

/-- **`NOT` is complement.** A condition has an answer on every row, also on that of a note without a folder
or a tag. -/
theorem fetchMatching_not (hs : s.Keyed) (ha : a.Fitting) (h : (Predicate.ofExpr (.not a)).Taken) :
    ∃ as, (holding s).fetchMatching (.ofExpr a) = .ok as
      ∧ (holding s).fetchMatching (.ofExpr (.not a)) = .ok (s.fetchAll.filter fun v => v ∉ as) := by
  refine ⟨_, fetchMatching_ofExpr ha h.of_not, ?_⟩
  rw [fetchMatching_ofExpr ha.not h]
  refine congrArg Except.ok (Store.filter_fetchAll fun n hn => ?_).symm
  simp only [hs.mem_map_view_filter hn, decide_not, Bool.decide_eq_true]
  exact (Condition.answer_neg (s.replies_pinned_not n) a.condition).symm

/-- **The results of a search form a Boolean algebra of ordered lists, as far as the engine takes the
conditions.** The list of all notes has every note outside the trash once, each ahead of all that it
outranks. An `AND`, an `OR` or a `NOT` that is taken finds those of these notes, in this order, that both
operands find, or one of them, or that the operand does not find. What is not taken has no result. -/
theorem fetchMatching_and_or_not_iff (hs : s.Keyed) (ha : a.Fitting) (hb : b.Fitting) :
    (holding s).fetchAll = .ok s.fetchAll
      ∧ s.fetchAll.Perm ((s.notes.filter Note.isActive).map s.view)
      ∧ s.fetchAll.Pairwise NoteView.Outranks
      ∧ ((Predicate.ofExpr (.and a b)).Taken ↔
          ∃ as bs, (holding s).fetchMatching (.ofExpr a) = .ok as
            ∧ (holding s).fetchMatching (.ofExpr b) = .ok bs
            ∧ (holding s).fetchMatching (.ofExpr (.and a b))
                = .ok (s.fetchAll.filter fun v => v ∈ as ∧ v ∈ bs))
      ∧ ((Predicate.ofExpr (.or a b)).Taken ↔
          ∃ as bs, (holding s).fetchMatching (.ofExpr a) = .ok as
            ∧ (holding s).fetchMatching (.ofExpr b) = .ok bs
            ∧ (holding s).fetchMatching (.ofExpr (.or a b))
                = .ok (s.fetchAll.filter fun v => v ∈ as ∨ v ∈ bs))
      ∧ ((Predicate.ofExpr (.not a)).Taken ↔
          ∃ as, (holding s).fetchMatching (.ofExpr a) = .ok as
            ∧ (holding s).fetchMatching (.ofExpr (.not a)) = .ok (s.fetchAll.filter fun v => v ∉ as))
      ∧ ∀ e, ¬(Predicate.ofExpr e).Taken →
          ∃ fault, (holding s).fetchMatching (.ofExpr e) = .error (.unreadable .note fault) := by
  refine ⟨rfl, s.fetchAll_perm, hs.pairwise_outranks_fetchAll, ⟨fetchMatching_and hs ha hb, ?_⟩,
    ⟨fetchMatching_or hs ha hb, ?_⟩, ⟨fetchMatching_not hs ha, ?_⟩,
    fun e => fetchMatching_ofExpr_eq_error⟩
  · rintro ⟨as, bs, -, -, h⟩
    exact taken_of_fetchMatching_eq_ok h
  · rintro ⟨as, bs, -, -, h⟩
    exact taken_of_fetchMatching_eq_ok h
  · rintro ⟨as, -, h⟩
    exact taken_of_fetchMatching_eq_ok h

/-- A note in no folder; one with a tag name twice and a NUL in its title; and one in the trash. -/
def threeNotes : Store where
  folders := [⟨1, "Home", none⟩]
  tags := [⟨1, "work"⟩, ⟨2, "work"⟩]
  notes := [⟨1, "plan", "", none, false, .epoch, .epoch, none⟩,
    ⟨2, "a\x00plan", "", some 1, false, .epoch, .epoch, none⟩,
    ⟨3, "plan", "", none, true, .epoch, .epoch, some .epoch⟩]
  links := [⟨2, 1⟩, ⟨2, 2⟩, ⟨3, 1⟩]

/-- **What carries the tag, and what does not**, what is about a plan, and what is either. -/
theorem fetchMatching_and_or_not_threeNotes :
    let work := Expr.leaf (.tag "WORK")
    let plan := Expr.leaf (.text "plan")
    let one := threeNotes.view threeNotes.notes[0]
    let two := threeNotes.view threeNotes.notes[1]
    threeNotes.Keyed ∧ work.Fitting ∧ plan.Fitting ∧ threeNotes.fetchAll = [two, one]
      ∧ (holding threeNotes).fetchMatching (.ofExpr work) = .ok [two]
      ∧ (holding threeNotes).fetchMatching (.ofExpr plan) = .ok [one]
      ∧ (holding threeNotes).fetchMatching (.ofExpr (.and work plan)) = .ok []
      ∧ (holding threeNotes).fetchMatching (.ofExpr (.or work plan)) = .ok [two, one]
      ∧ (holding threeNotes).fetchMatching (.ofExpr (.not work)) = .ok [one] := by
  intro work plan one two
  have hkeyed : threeNotes.Keyed := ⟨by decide, by decide, by decide⟩
  have hwork : work.Fitting := fun term h => by cases List.mem_singleton.mp h
  have hplan : plan.Fitting := by
    intro term h
    cases List.mem_singleton.mp h
    unfold Like.Fitting
    decide
  have hactive : threeNotes.active = [threeNotes.notes[1], threeNotes.notes[0]] := by cbv
  have hall : threeNotes.fetchAll = [two, one] := congrArg (List.map threeNotes.view) hactive
  obtain ⟨-, -, -, hand, hor, hnot, -⟩ := fetchMatching_and_or_not_iff hkeyed hwork hplan
  obtain ⟨as, bs, has, hbs, hand⟩ := hand.mp (Predicate.taken_ofExpr_iff.mpr rfl)
  obtain ⟨as', bs', has', hbs', hor⟩ := hor.mp (Predicate.taken_ofExpr_iff.mpr rfl)
  obtain ⟨as'', has'', hnot⟩ := hnot.mp (Predicate.taken_ofExpr_iff.mpr rfl)
  have hfound : (holding threeNotes).fetchMatching (.ofExpr work) = .ok [two] := by
    rw [fetchMatching_ofExpr hwork (Predicate.taken_ofExpr_iff.mpr rfl), hactive]
    rfl
  have hfound' : (holding threeNotes).fetchMatching (.ofExpr plan) = .ok [one] := by
    rw [fetchMatching_ofExpr hplan (Predicate.taken_ofExpr_iff.mpr rfl), hactive]
    rfl
  rw [hfound] at has has' has''
  rw [hfound'] at hbs hbs'
  cases has
  cases has'
  cases has''
  cases hbs
  cases hbs'
  rw [hall] at hand hor hnot
  have hne : one ≠ two := by decide
  refine ⟨hkeyed, hwork, hplan, hall, hfound, hfound', hand.trans ?_, hor.trans ?_, hnot.trans ?_⟩ <;>
    simp [hne, hne.symm]

/-- **A union of two results need not be a result**: both operands are taken, and the `OR` of them is not. -/
theorem fetchMatching_or_eq_error :
    let pinned := Expr.leaf (.pinned true)
    let deep := Expr.and (.leaf (.pinned true)) (ladder 17)
    replaced.Keyed ∧ pinned.Fitting ∧ deep.Fitting
      ∧ (holding replaced).fetchMatching (.ofExpr pinned) = .ok replaced.fetchAll
      ∧ (holding replaced).fetchMatching (.ofExpr deep) = .ok replaced.fetchAll
      ∧ (holding replaced).fetchMatching (.ofExpr (.or pinned deep))
          = .error (.unreadable .note .stackOverflow) := by
  intro pinned deep
  have hactive : replaced.active = replaced.notes := replaced.active_eq_notes (by decide) (by decide)
  have hpinned : pinned.Fitting := fun term h => by cases List.mem_singleton.mp h
  have hdeep : deep.Fitting := by
    have hnone : deep.condition.terms = [] := by decide +kernel
    intro term h
    rw [← Expr.mem_terms_condition, hnone] at h
    exact absurd h List.not_mem_nil
  refine ⟨⟨by decide, by decide, by decide⟩, hpinned, hdeep, ?_, ?_,
    fetchMatching_eq_error (Predicate.clause_ofExpr _) (by decide +kernel)⟩
  · rw [fetchMatching_ofExpr hpinned (Predicate.taken_ofExpr_iff.mpr rfl), Store.fetchAll, hactive]
    rfl
  · have htaken : (Predicate.ofExpr deep).Taken := Predicate.taken_ofExpr_iff.mpr (by decide +kernel)
    rw [fetchMatching_ofExpr hdeep htaken, Store.fetchAll, hactive]
    rfl

end Database

end NoteSearch
