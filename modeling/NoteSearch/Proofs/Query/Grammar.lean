import NoteSearch.Proofs.Query.Reading

/-!
# The grammar of queries

The parser is a set of procedures; this file says what language it reads. A sequence of tokens *derives*
an expression at one of four levels, from a leaf or a group up to a chain of `OR`
(`NoteSearch.Grammar.Derives`). The chains grow at their right end, so `a AND b AND c` is
`(a AND b) AND c`, and parentheses leave no trace in the expression.

The rules look ambiguous and are not: an operand that follows another one without `AND` must not start
with `NOT`, and every level stops at a token that the next level up is waiting for. The parser
therefore never has a choice, and what it builds is what was derived.

The induction behind this cannot speak of whole sequences, since a derivation of an operand is followed
by the rest of its chain. So each level promises something about *any* tokens that follow
(`NoteSearch.Grammar.Reached`): an atom is found whatever comes next; a chain has been read up to its
last operand, and goes on as the parser goes on from there.
-/

namespace NoteSearch

namespace Grammar

open Parse

/-- **The levels of precedence**, from the tightest to the loosest. -/
inductive Level
  /-- A leaf, or a group in parentheses. -/
  | atom
  /-- An atom with at most one `NOT` before it. -/
  | operand
  /-- A chain of operands that all have to hold. -/
  | conjunction
  /-- A chain of conjunctions of which one has to hold. -/
  | disjunction
  deriving DecidableEq, Repr

/-- **Derivability**: these tokens spell this expression at this level. -/
inductive Derives : Level → List Token → Expr → Prop
  /-- A leaf spells itself. -/
  | leaf (l : Leaf) : Derives .atom [.leaf l] (.leaf l)
  /-- A group spells what is in it. -/
  | group {ts : List Token} {e : Expr} : Derives .disjunction ts e →
      Derives .atom (.openParen :: ts ++ [.closeParen]) e
  /-- An atom may stand alone. -/
  | plain {ts : List Token} {e : Expr} : Derives .atom ts e → Derives .operand ts e
  /-- An atom may be negated, once. -/
  | negated {ts : List Token} {e : Expr} : Derives .atom ts e →
      Derives .operand (.not :: ts) (.not e)
  /-- An operand is a chain. -/
  | operand {ts : List Token} {e : Expr} : Derives .operand ts e → Derives .conjunction ts e
  /-- A chain may be continued by `AND` and an operand. -/
  | conjoin {ts us : List Token} {e f : Expr} : Derives .conjunction ts e → Derives .operand us f →
      Derives .conjunction (ts ++ .and :: us) (.and e f)
  /-- The `AND` may be left out, unless the operand starts with `NOT`. -/
  | juxtapose {ts us : List Token} {e f : Expr} : Derives .conjunction ts e →
      Derives .operand us f → us.head? ≠ some .not → Derives .conjunction (ts ++ us) (.and e f)
  /-- A conjunction is a chain. -/
  | conjunction {ts : List Token} {e : Expr} : Derives .conjunction ts e →
      Derives .disjunction ts e
  /-- A chain may be continued by `OR` and a conjunction. -/
  | disjoin {ts us : List Token} {e f : Expr} : Derives .disjunction ts e →
      Derives .conjunction us f → Derives .disjunction (ts ++ .or :: us) (.or e f)

variable {ts us rest last : List Token} {e f g : Expr}

/-- What is not negated starts like an atom. -/
theorem Derives.exists_startsAtom {l : Level} (h : Derives l ts e) (hl : l = .atom ∨ l = .operand)
    (hnot : ts.head? ≠ some .not) : ∃ t us, ts = t :: us ∧ t.startsAtom = true := by
  induction h with
  | leaf l => exact ⟨_, _, rfl, rfl⟩
  | group _ _ => exact ⟨_, _, rfl, rfl⟩
  | plain _ ih => exact ih (Or.inl rfl) hnot
  | negated _ _ => exact absurd rfl hnot
  | operand _ _ => simp at hl
  | conjoin _ _ _ _ => simp at hl
  | juxtapose _ _ _ _ _ => simp at hl
  | conjunction _ _ => simp at hl
  | disjoin _ _ _ _ => simp at hl

theorem Derives.ne_nil {l : Level} (h : Derives l ts e) : ts ≠ [] := by
  induction h <;> simp_all

/-! ### What the parser makes of a derivation -/

/-- A token at which a conjunction is complete: it neither is `AND` nor starts an atom. -/
def EndsConjunction (t : Token) : Prop :=
  t ≠ .and ∧ t.startsAtom = false

/-- **What the parser has reached** after the tokens of a derivation, whatever follows them. A chain is
not finished there, so it ends as the parser's loop ends when it goes on from the chain so far. -/
def Reached : Level → List Token → Expr → Prop
  | .atom, ts, e => ∀ rest, (atom (ts ++ rest)).Finds e rest
  | .operand, ts, e => ∀ rest, (notOperand (ts ++ rest)).Finds e rest
  | .conjunction, ts, e => ∀ rest g last, (andTail e rest).Ends g last →
      (andChain (ts ++ rest)).Finds g last
  | .disjunction, ts, e => ∀ rest g last, (∀ t ∈ rest.head?, EndsConjunction t) →
      (orTail e rest).Ends g last → (orChain (ts ++ rest)).Finds g last

theorem Reached.group (h : Reached .disjunction ts e) :
    Reached .atom (.openParen :: ts ++ [.closeParen]) e := by
  intro rest
  -- the closing parenthesis ends every chain inside the group
  have hclose : (orTail e (.closeParen :: rest)).Ends e (.closeParen :: rest) :=
    ends_orTail (by simp)
  have hin := h (.closeParen :: rest) e _ (by simp [EndsConjunction, Token.startsAtom]) hclose
  rw [List.append_assoc]
  exact finds_atom_group hin

theorem Reached.plain (h : Reached .atom ts e) (hne : ts ≠ []) (hnot : ts.head? ≠ some .not) :
    Reached .operand ts e := by
  intro rest
  obtain ⟨t, us, rfl⟩ := List.exists_cons_of_ne_nil hne
  rw [notOperand_eq_atom]
  · exact h rest
  · simpa using hnot

theorem Reached.negated (h : Reached .atom ts e) : Reached .operand (.not :: ts) (.not e) :=
  fun rest => finds_notOperand_not (h rest)

theorem Reached.operand (h : Reached .operand ts e) : Reached .conjunction ts e :=
  fun rest _ _ hx => finds_andChain (h rest) hx

theorem Reached.conjoin (h : Reached .conjunction ts e) (h' : Reached .operand us f) :
    Reached .conjunction (ts ++ .and :: us) (.and e f) := by
  intro rest g last hx
  have hstep : (andTail e (.and :: (us ++ rest))).Ends g last := ends_andTail_and (h' rest) hx
  rw [List.append_assoc]
  exact h _ g last hstep

theorem Reached.juxtapose {t : Token} (h : Reached .conjunction ts e)
    (h' : Reached .operand (t :: us) f) (ht : t.startsAtom = true) :
    Reached .conjunction (ts ++ t :: us) (.and e f) := by
  intro rest g last hx
  have hstep : (andTail e (t :: (us ++ rest))).Ends g last :=
    ends_andTail_beside ht (h' rest) hx
  rw [List.append_assoc]
  exact h _ g last hstep

theorem Reached.conjunction (h : Reached .conjunction ts e) : Reached .disjunction ts e :=
  fun rest _ _ hrest hx => finds_orChain (h rest e rest (ends_andTail hrest)) hx

theorem Reached.disjoin (h : Reached .disjunction ts e) (h' : Reached .conjunction us f) :
    Reached .disjunction (ts ++ .or :: us) (.or e f) := by
  intro rest g last hrest hx
  have hstep : (orTail e (.or :: (us ++ rest))).Ends g last :=
    ends_orTail_or (h' rest f rest (ends_andTail hrest)) hx
  rw [List.append_assoc]
  exact h _ g last (by simp [EndsConjunction, Token.startsAtom]) hstep

/-- An atom does not start with `NOT`. -/
theorem Derives.head?_ne_not (h : Derives .atom ts e) : ts.head? ≠ some .not := by
  cases h with
  | leaf l => simp
  | group _ => simp

/-- **The parser follows every derivation**, one rule at a time. -/
theorem Derives.reached {l : Level} (h : Derives l ts e) : Reached l ts e := by
  induction h with
  | leaf l => exact fun rest => finds_atom_leaf l rest
  | group _ ih => exact ih.group
  | plain h ih => exact ih.plain h.ne_nil h.head?_ne_not
  | negated _ ih => exact ih.negated
  | operand _ ih => exact ih.operand
  | conjoin _ _ ih ih' => exact ih.conjoin ih'
  | juxtapose _ h' hnot ih ih' =>
    -- an operand that does not start with `NOT` starts an atom, which is where the loop goes on
    obtain ⟨t, us, rfl, ht⟩ := h'.exists_startsAtom (Or.inr rfl) hnot
    exact ih.juxtapose ih' ht
  | conjunction _ ih => exact ih.conjunction
  | disjoin _ _ ih ih' => exact ih.disjoin ih'

/-- A derivation with nothing after it is read to its end. -/
theorem Derives.finds (h : Derives .disjunction ts e) : (orChain ts).Finds e [] := by
  have hx := h.reached [] e [] (by simp) (ends_orTail (by simp))
  rwa [List.append_nil] at hx

/-- What is derived is what the tokens spell. -/
theorem Derives.ofTokens? (h : Derives .disjunction ts e) : Expr.ofTokens? ts = some e :=
  h.finds.1

/-! ### The parser decides the grammar's derivations -/

/-- **The parser is complete and the grammar unambiguous**: tokens that derive an expression are parsed
to it, none of them is left unread, and they derive no other expression. -/
theorem parse_of_derives (h : Derives .disjunction ts e) :
    Expr.ofTokens? ts = some e ∧ (orChain ts).rest = [] ∧
      ∀ f, Derives .disjunction ts f → f = e := by
  refine ⟨h.ofTokens?, h.finds.2, fun f hf => ?_⟩
  have hsame : some f = some e := hf.ofTokens?.symm.trans h.ofTokens?
  exact Option.some.inj hsame

/-- A group that was not needed, an `AND` that was left out, a negation and an `OR`:
`a (tag:b) AND NOT c OR d`. -/
theorem parse_of_derives_mixed :
    let a := Leaf.text "a"; let b := Leaf.tag "b"; let c := Leaf.text "c"; let d := Leaf.text "d"
    let ts : List Token := [.leaf a, .openParen, .leaf b, .closeParen, .and, .not, .leaf c, .or, .leaf d]
    let e : Expr := .or (.and (.and (.leaf a) (.leaf b)) (.not (.leaf c))) (.leaf d)
    Derives .disjunction ts e ∧ Expr.ofTokens? ts = some e ∧ (orChain ts).rest = [] ∧
      ∀ f, Derives .disjunction ts f → f = e := by
  intro a b c d ts e
  have leaf (l : Leaf) : Derives .conjunction [.leaf l] (.leaf l) := .operand (.plain (.leaf l))
  have group : Derives .operand [.openParen, .leaf b, .closeParen] (.leaf b) :=
    .plain (.group (.conjunction (leaf b)))
  have h : Derives .disjunction ts e :=
    .disjoin (.conjunction (.conjoin (.juxtapose (leaf a) group (by decide)) (.negated (.leaf c))))
      (leaf d)
  exact ⟨h, parse_of_derives h⟩

end Grammar

end NoteSearch
