import NoteSearch.Proofs.Search.Pattern
import NoteSearch.Proofs.Store.Edit
import NoteSearch.Search.Read

/-!
# What a condition answers

The questions that a condition puts are those of the leaves of an expression. Once every leaf has an
answer, so has the condition: `NoteSearch.Condition.answer` reads it off, whoever gives the answers to the
leaves. Two parties do:

* the **database**, which looks at the tables (`NoteSearch.Store.replies`). While no pattern is beyond the
  limit, testing a condition on a row never fails and gives this answer
  (`NoteSearch.Condition.test_eq_answer`), so that a read selects rows as a filter does
  (`NoteSearch.Database.fetchMatching_eq`);
* the **test in memory**, which looks at a note that has been read (`NoteSearch.Leaf.test`). A predicate
  carries a condition and a test, and however it is put together the test gives the answer of the condition
  (`NoteSearch.Predicate.Built.coherent`).

What is to be shown is the same in both cases: the constants that `NoteSearch.Condition.conj` and its
companions leave out do not change an answer.
-/

namespace NoteSearch

/-! ### Answering a condition -/

namespace Condition

/-- **The answer of a condition**, when those of the leaves are known. -/
def answer (ask : Leaf → Bool) : Condition → Bool
  | constant value => value
  | carries name => ask (.tag name)
  | filedIn name => ask (.folder name)
  | mentions term => ask (.text term)
  | pinnedIs flag => ask (.pinned flag)
  | and l r => l.answer ask && r.answer ask
  | or l r => l.answer ask || r.answer ask
  | not c => !c.answer ask

variable {ask : Leaf → Bool}

@[simp] theorem answer_constant (value : Bool) : (constant value).answer ask = value := rfl

@[simp] theorem answer_and (l r : Condition) :
    (and l r).answer ask = (l.answer ask && r.answer ask) := rfl

@[simp] theorem answer_or (l r : Condition) :
    (or l r).answer ask = (l.answer ask || r.answer ask) := rfl

@[simp] theorem answer_not (c : Condition) : (not c).answer ask = !c.answer ask := rfl

/-- The condition of a leaf has the leaf's answer. -/
@[simp] theorem answer_condition (l : Leaf) : l.condition.answer ask = ask l := by
  cases l <;> rfl

/-- **Leaving constants out of a conjunction** does not change its answer. -/
theorem answer_conj (c d : Condition) :
    (c.conj d).answer ask = (c.answer ask && d.answer ask) := by
  fun_cases conj c d <;> simp

/-- **Leaving constants out of a disjunction** does not change its answer. -/
theorem answer_disj (c d : Condition) :
    (c.disj d).answer ask = (c.answer ask || d.answer ask) := by
  fun_cases disj c d <;> simp

/-- **Turning a condition around** turns its answer around, if a note is pinned exactly when it is not
unpinned. -/
theorem answer_neg (hpin : ∀ flag, ask (.pinned !flag) = !ask (.pinned flag)) (c : Condition) :
    c.neg.answer ask = !c.answer ask := by
  fun_cases neg c with
  | case1 b => rfl
  | case2 flag => exact hpin flag
  | case3 c => rfl

/-- Answers that agree on every leaf agree on a condition. -/
theorem answer_congr {ask' : Leaf → Bool} {c : Condition}
    (hterms : ∀ t ∈ c.terms, ask (.text t) = ask' (.text t))
    (hrest : ∀ l, (∀ t, l ≠ .text t) → ask l = ask' l) : c.answer ask = c.answer ask' := by
  induction c with
  | constant value => rfl
  | carries name => exact hrest (.tag name) (fun _ => Leaf.noConfusion)
  | filedIn name => exact hrest (.folder name) (fun _ => Leaf.noConfusion)
  | mentions term => exact hterms term (List.mem_singleton_self term)
  | pinnedIs flag => exact hrest (.pinned flag) (fun _ => Leaf.noConfusion)
  | and l r ihl ihr | or l r ihl ihr =>
    simp only [answer]
    rw [ihl fun t ht => hterms t (List.mem_append_left _ ht),
      ihr fun t ht => hterms t (List.mem_append_right _ ht)]
  | not c ih => exact congrArg (!·) (ih hterms)

end Condition

/-! ### The answers of the database -/

/-- **What the database replies to a leaf**, on the row of a note. -/
def Store.replies (s : Store) (n : Note) : Leaf → Bool
  | .tag name => Condition.linksTag s n name
  | .folder name => Condition.linksFolder s n name
  | .text term =>
    Like.finds term.toList n.title.toList || Like.finds term.toList n.body.toList
  | .pinned flag => n.pinned == flag

/-- The reply to a term, if its pattern is within the limit. -/
theorem Condition.testTerm_eq {term : String} (h : Like.Fitting term) (s : Store) (n : Note) :
    testTerm n term = .ok (s.replies n (.text term)) := by
  show (Like.test (Like.containing term.toList) n.title.toList >>= fun found =>
    if found then pure true else Like.test (Like.containing term.toList) n.body.toList) = _
  rw [Like.test_containing h, Like.test_containing h]
  show (if Like.finds term.toList n.title.toList then Except.ok true else _)
    = Except.ok (Like.finds term.toList n.title.toList || _)
  cases Like.finds term.toList n.title.toList <;> rfl

/-- **Testing a row gives an answer**, and it is that of the replies, if every pattern is within the
limit. -/
theorem Condition.test_eq_answer {c : Condition} (h : ∀ t ∈ c.terms, Like.Fitting t) (s : Store)
    (n : Note) : c.test s n = .ok (c.answer (s.replies n)) := by
  induction c with
  | constant value => rfl
  | carries name => rfl
  | filedIn name => rfl
  | mentions term => exact testTerm_eq (h term (List.mem_singleton_self term)) s n
  | pinnedIs flag => rfl
  | and l r ihl ihr =>
    have hl := ihl fun t ht => h t (List.mem_append_left _ ht)
    have hr := ihr fun t ht => h t (List.mem_append_right _ ht)
    -- the right operand is not tested when the left one settles the answer
    simp only [test, hl, hr, answer_and, bind, Except.bind]
    cases l.answer (s.replies n) <;> rfl
  | or l r ihl ihr =>
    have hl := ihl fun t ht => h t (List.mem_append_left _ ht)
    have hr := ihr fun t ht => h t (List.mem_append_right _ ht)
    simp only [test, hl, hr, answer_or, bind, Except.bind]
    cases l.answer (s.replies n) <;> rfl
  | not c ih =>
    simp only [test, ih h, bind, Except.bind]
    rfl

/-- **Selecting rows is filtering**, if every row has an answer. -/
theorem selectRows_eq_filter {α ε : Type} {test : α → Except ε Bool} {p : α → Bool} {rows : List α}
    (h : ∀ a ∈ rows, test a = .ok (p a)) : selectRows test rows = .ok (rows.filter p) := by
  induction rows with
  | nil => rfl
  | cons a rows ih =>
    unfold selectRows
    rw [h a List.mem_cons_self, ih fun b hb => h b (List.mem_cons_of_mem a hb)]
    show Except.ok (if p a then a :: rows.filter p else rows.filter p) = _
    cases hp : p a
    · rw [List.filter_cons_of_neg (by rw [hp]; exact Bool.false_ne_true), if_neg Bool.false_ne_true]
    · rw [List.filter_cons_of_pos hp, if_pos rfl]

/-- **What a condition selects**: the notes on whose rows the answer is yes. -/
theorem Store.fetchWhere_eq {c : Condition} (h : ∀ t ∈ c.terms, Like.Fitting t) (s : Store) :
    s.fetchWhere c = .ok ((s.active.filter fun n => c.answer (s.replies n)).map s.view) := by
  have hrows : selectRows (c.test s) s.active = .ok (s.active.filter fun n => c.answer (s.replies n)) :=
    selectRows_eq_filter fun n _ => Condition.test_eq_answer h s n
  unfold fetchWhere
  rw [hrows]
  rfl

namespace Database

variable {s : Store} {p : Predicate} {c : Condition}

/-- **What the database selects**: the notes on whose rows the answer is yes, if the engine takes the
condition and every pattern is within the limit. -/
theorem fetchMatching_eq (hc : p.clause = some c) (haccept : c.accept = .ok ())
    (hterms : ∀ t ∈ c.terms, Like.Fitting t) :
    (holding s).fetchMatching p
      = .ok ((s.active.filter fun n => c.answer (s.replies n)).map s.view) := by
  unfold fetchMatching
  simp only [hc, haccept]
  show (s.fetchWhere c).mapError (DatabaseFault.unreadable .note) = _
  rw [Store.fetchWhere_eq hterms]
  rfl

/-- A condition that the engine does not take makes the read fail. -/
theorem fetchMatching_eq_error {fault : EngineFault} (hc : p.clause = some c)
    (haccept : c.accept = .error fault) :
    (holding s).fetchMatching p = .error (.unreadable .note fault) := by
  unfold fetchMatching
  simp only [hc, haccept]
  rfl

/-- Without a condition, everything is read. -/
theorem fetchMatching_eq_fetchAll (hc : p.clause = none) :
    (holding s).fetchMatching p = .ok s.fetchAll := by
  unfold fetchMatching
  simp only [hc]
  rfl

/-- What is selected in memory. -/
theorem fetchMatchingInMemory_eq (s : Store) (p : Predicate) :
    (holding s).fetchMatchingInMemory p = .ok (s.fetchAll.filter p.test) :=
  rfl

end Database

/-! ### The answers in memory -/

namespace Predicate

/-- **The answer of a predicate**, when those of the leaves are known. -/
def answer (p : Predicate) (ask : Leaf → Bool) : Bool :=
  (p.clause.map (·.answer ask)).getD true

/-- **The predicates that can be put together** from what is asked of every note and from expressions, of
which parts may be missing, by the three operators. -/
inductive Built : Predicate → Prop
  /-- The predicate of every note. -/
  | everything : Built everything
  /-- The predicate of an expression with parts missing. -/
  | ofSketch {s : Sketch} {p : Predicate} : ofSketch s = .ok p → Built p
  /-- Both hold. -/
  | conj {p q : Predicate} : Built p → Built q → Built (p.conj q)
  /-- At least one holds. -/
  | disj {p q : Predicate} : Built p → Built q → Built (p.disj q)
  /-- It does not hold. -/
  | neg {p : Predicate} : Built p → Built p.neg

/-- An expression with nothing missing can be put together. -/
theorem Built.ofExpr (e : Expr) : (Predicate.ofExpr e).Built :=
  .ofSketch (ofSketch_ofExpr e)

/-- **The two sides of a predicate agree** on notes in memory: its test gives the answer of its
condition. -/
def Coherent (p : Predicate) : Prop :=
  ∀ v, p.test v = p.answer fun l => l.test v

namespace Coherent

variable {p q : Predicate}

/-- A note is pinned exactly when it is not unpinned. -/
theorem test_pinned_not (v : NoteView) (flag : Bool) :
    (Leaf.pinned !flag).test v = !(Leaf.pinned flag).test v := by
  show (v.pinned == !flag) = !(v.pinned == flag)
  cases v.pinned <;> cases flag <;> rfl

/-- The two sides agree on every note, when every note is asked for. -/
theorem everything : Predicate.everything.Coherent :=
  fun _ => rfl

/-- The two sides agree on a leaf. -/
theorem ofLeaf (l : Leaf) : (Predicate.ofLeaf l).Coherent := by
  intro v
  show l.test v = l.condition.answer fun l => l.test v
  rw [Condition.answer_condition]

/-- The two sides agree on a conjunction. -/
theorem conj (hp : p.Coherent) (hq : q.Coherent) : (p.conj q).Coherent := by
  obtain ⟨clause, test⟩ := p
  obtain ⟨clause', test'⟩ := q
  -- an operand without a condition asks for nothing, so the other one is left as it is
  cases clause with
  | none => exact hq
  | some c =>
    cases clause' with
    | none => exact hp
    | some d =>
      intro v
      show (test v && test' v) = (c.conj d).answer fun l => l.test v
      rw [Condition.answer_conj]
      exact congrArg₂ (· && ·) (hp v) (hq v)

/-- The two sides agree on a disjunction. -/
theorem disj (hp : p.Coherent) (hq : q.Coherent) : (p.disj q).Coherent := by
  obtain ⟨clause, test⟩ := p
  obtain ⟨clause', test'⟩ := q
  cases clause with
  | none => exact everything
  | some c =>
    cases clause' with
    | none => exact everything
    | some d =>
      intro v
      show (test v || test' v) = (c.disj d).answer fun l => l.test v
      rw [Condition.answer_disj]
      exact congrArg₂ (· || ·) (hp v) (hq v)

/-- The two sides agree on a negation. -/
theorem neg (hp : p.Coherent) : p.neg.Coherent := by
  obtain ⟨clause, test⟩ := p
  cases clause with
  | none => exact fun _ => rfl
  | some c =>
    intro v
    show (!test v) = c.neg.answer fun l => l.test v
    rw [Condition.answer_neg (test_pinned_not v)]
    exact congrArg (!·) (hp v)

/-- **The two sides agree on an expression**, with or without its parts. -/
theorem ofSketch {s : Sketch} (h : Predicate.ofSketch s = .ok p) : p.Coherent := by
  induction s generalizing p with
  | gap =>
    cases h
    exact everything
  | foreign => cases h
  | leaf l =>
    cases h
    exact ofLeaf l
  | and l r ihl ihr =>
    obtain ⟨q, hq, h⟩ := bind_eq_ok_iff.mp h
    obtain ⟨r, hr, h⟩ := bind_eq_ok_iff.mp h
    cases h
    exact (ihl hq).conj (ihr hr)
  | or l r ihl ihr =>
    obtain ⟨q, hq, h⟩ := bind_eq_ok_iff.mp h
    obtain ⟨r, hr, h⟩ := bind_eq_ok_iff.mp h
    cases h
    exact (ihl hq).disj (ihr hr)
  | not s ih =>
    obtain ⟨q, hq, h⟩ := bind_eq_ok_iff.mp h
    cases h
    exact (ih hq).neg

end Coherent

/-- **However a predicate is put together**, its test gives the answer of its condition. -/
theorem Built.coherent {p : Predicate} (h : p.Built) : p.Coherent := by
  induction h with
  | everything => exact .everything
  | ofSketch h => exact .ofSketch h
  | conj _ _ ihp ihq => exact ihp.conj ihq
  | disj _ _ ihp ihq => exact ihp.disj ihq
  | neg _ ih => exact ih.neg

end Predicate

end NoteSearch
