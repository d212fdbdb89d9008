import NoteSearch.Proofs.Query.Consumption

/-!
# When a query can be read

The parser recovers from almost everything, so most malformed queries have an expression too. This file
says which ones do. What follows the first leaf cannot undo what was built from it, and what comes
before it can only be groups that are opened, and a `NOT` before a group or before the leaf: the tokens
have to *lead to a leaf* (`NoteSearch.LeadsToLeaf`). Two `NOT` in a row do not, and neither does a
group that is closed before anything stands in it.

That nothing is lost on the way is a different matter, and the subject of
`NoteSearch.leaves_prefix_of_ofTokens?`. Both together describe the recovery
(`NoteSearch.recovery_iff_leadsToLeaf`): a query that cannot be read leads to no leaf, and of one that
can be read some leaves may be missing at the end, but none in the middle.
-/

namespace NoteSearch

open Text

/-! ### The way to a leaf -/

/-- The `NOT` before an operand, for an operand that has one. -/
def negation (negated : Bool) : List Token :=
  if negated then [.not] else []

/-- Groups that are opened one inside the other, each with or without a `NOT` before it. -/
def openings (groups : List Bool) : List Token :=
  groups.flatMap fun negated => negation negated ++ [.openParen]

/-- **These tokens lead to a leaf**: they begin with groups that are opened, and then with a leaf that
may have a `NOT` before it. -/
def LeadsToLeaf (ts : List Token) : Prop :=
  ∃ (groups : List Bool) (negated : Bool) (l : Leaf) (rest : List Token),
    ts = openings groups ++ (negation negated ++ .leaf l :: rest)

variable {ts us rest : List Token} {e : Expr}

/-- **The first turn of the way**: after a `NOT` or without one, the leaf is there, or a group is
opened and the way goes on inside. -/
theorem leadsToLeaf_iff : LeadsToLeaf ts ↔ ∃ negated us, ts = negation negated ++ us ∧
    ((∃ l rest, us = .leaf l :: rest) ∨ ∃ rest, us = .openParen :: rest ∧ LeadsToLeaf rest) := by
  constructor
  · rintro ⟨groups, negated, l, rest, rfl⟩
    cases groups with
    | nil => exact ⟨negated, .leaf l :: rest, rfl, Or.inl ⟨l, rest, rfl⟩⟩
    | cons outer groups =>
      -- inside the outermost group the way goes on as it began
      have hinner : LeadsToLeaf (openings groups ++ (negation negated ++ .leaf l :: rest)) :=
        ⟨groups, negated, l, rest, rfl⟩
      exact ⟨outer, _, by simp [openings], Or.inr ⟨_, rfl, hinner⟩⟩
  · rintro ⟨negated, us, rfl, ⟨l, rest, rfl⟩ | ⟨rest, rfl, groups, inner, l, last, rfl⟩⟩
    · exact ⟨[], negated, l, rest, rfl⟩
    · exact ⟨negated :: groups, inner, l, last, by simp [openings]⟩

/-! ### Which readings succeed -/

namespace Parse

/-- **An operand was found**, whichever it is and whatever is left. -/
def Reading.Succeeds (r : Reading ts) : Prop :=
  ∃ e, r.expr? = some e

theorem Reading.Finds.succeeds {r : Reading ts} (h : r.Finds e rest) : r.Succeeds :=
  ⟨e, h.1⟩

theorem Reading.Misses.not_succeeds {r : Reading ts} (h : r.Misses rest) : ¬r.Succeeds := by
  rintro ⟨e, he⟩
  rw [h.1] at he
  exact absurd he (by simp)

/-- A reading that goes the way of another one succeeds when that one does. -/
theorem Reading.succeeds_iff {r : Reading ts} {r' : Reading us}
    (hfind : ∀ e rest, r.Finds e rest → r'.Succeeds)
    (hmiss : ∀ rest, r.Misses rest → ¬r'.Succeeds) : r'.Succeeds ↔ r.Succeeds := by
  refine ⟨fun h => ?_, fun ⟨e, he⟩ => hfind e _ ⟨he, rfl⟩⟩
  cases hr : r.expr? with
  | some e => exact ⟨e, hr⟩
  | none => exact absurd h (hmiss _ ⟨hr, rfl⟩)

/-- A chain succeeds with its first operand: whatever becomes of the others, that one is kept. -/
theorem succeeds_orChain_iff : (orChain ts).Succeeds ↔ (notOperand ts).Succeeds := by
  have hand : (andChain ts).Succeeds ↔ (notOperand ts).Succeeds :=
    Reading.succeeds_iff (fun _ _ h => (finds_andChain h ⟨rfl, rfl⟩).succeeds)
      fun _ h => (misses_andChain h).not_succeeds
  have hor : (orChain ts).Succeeds ↔ (andChain ts).Succeeds :=
    Reading.succeeds_iff (fun _ _ h => (finds_orChain h ⟨rfl, rfl⟩).succeeds)
      fun _ h => (misses_orChain h).not_succeeds
  exact hor.trans hand

theorem succeeds_notOperand_not : (notOperand (.not :: ts)).Succeeds ↔ (atom ts).Succeeds :=
  Reading.succeeds_iff (fun _ _ h => (finds_notOperand_not h).succeeds)
    fun _ h => (misses_notOperand_not h).not_succeeds

/-- An atom is a leaf, or a group in which something is found. -/
theorem succeeds_atom_iff : (atom ts).Succeeds ↔ (∃ l rest, ts = .leaf l :: rest) ∨
    ∃ rest, ts = .openParen :: rest ∧ (orChain rest).Succeeds := by
  -- a leaf, a group, or a token that starts neither
  by_cases hleaf : ∃ l rest, ts = .leaf l :: rest
  · obtain ⟨l, rest, rfl⟩ := hleaf
    exact iff_of_true (finds_atom_leaf l rest).succeeds (Or.inl ⟨l, rest, rfl⟩)
  by_cases hopen : ∃ rest, ts = .openParen :: rest
  · obtain ⟨rest, rfl⟩ := hopen
    have hgroup : (atom (.openParen :: rest)).Succeeds ↔ (orChain rest).Succeeds :=
      Reading.succeeds_iff (fun _ _ h => (finds_atom_group h).succeeds)
        fun _ h => (misses_atom_group h).not_succeeds
    rw [hgroup]
    simp
  · have hmiss : (atom ts).Misses ts :=
      misses_atom (fun l us h => hleaf ⟨l, us, h⟩) fun us h => hopen ⟨us, h⟩
    refine iff_of_false hmiss.not_succeeds ?_
    rintro (h | ⟨us, h, -⟩)
    · exact hleaf h
    · exact hopen ⟨us, h⟩

theorem succeeds_notOperand_iff : (notOperand ts).Succeeds ↔
    ∃ negated us, ts = negation negated ++ us ∧ (atom us).Succeeds := by
  by_cases hnot : ts.head? = some .not
  · obtain ⟨us, rfl⟩ := List.head?_eq_some_iff.mp hnot
    rw [succeeds_notOperand_not]
    refine ⟨fun h => ⟨true, us, rfl, h⟩, ?_⟩
    rintro ⟨negated, vs, hvs, h⟩
    cases negated with
    | true => exact (List.cons.inj hvs).2 ▸ h
    | false =>
      -- an atom does not start with `NOT`, so the `NOT` was read before it
      obtain rfl : .not :: us = vs := hvs
      simp [succeeds_atom_iff] at h
  · rw [notOperand_eq_atom hnot]
    refine ⟨fun h => ⟨false, ts, rfl, h⟩, ?_⟩
    rintro ⟨negated, us, rfl, h⟩
    cases negated with
    | true => exact absurd rfl hnot
    | false => exact h

/-- **The first turn of the parser**, which is that of the way to a leaf. -/
theorem succeeds_orChain_turn : (orChain ts).Succeeds ↔ ∃ negated us, ts = negation negated ++ us ∧
    ((∃ l rest, us = .leaf l :: rest) ∨
      ∃ rest, us = .openParen :: rest ∧ (orChain rest).Succeeds) := by
  rw [succeeds_orChain_iff, succeeds_notOperand_iff]
  exact exists_congr fun _ => exists_congr fun _ => and_congr_right fun _ => succeeds_atom_iff

/-- **Something is found exactly on the way to a leaf.** The parser and the way take the same turns,
and what is left after a turn is shorter. -/
theorem succeeds_orChain_iff_leadsToLeaf (ts : List Token) :
    (orChain ts).Succeeds ↔ LeadsToLeaf ts := by
  induction hlen : ts.length using Nat.strongRecOn generalizing ts with
  | ind n ih =>
    rw [succeeds_orChain_turn, leadsToLeaf_iff]
    refine exists_congr fun negated => exists_congr fun us => and_congr_right fun hts => ?_
    refine or_congr Iff.rfl (exists_congr fun rest => and_congr_right fun hus => ?_)
    have hshorter : rest.length < n := by
      rw [← hlen, hts, hus, List.length_append, List.length_cons]
      omega
    exact ih rest.length hshorter rest rfl

end Parse

/-! ### Reading what was typed -/

theorem Expr.leaves_ne_nil (e : Expr) : e.leaves ≠ [] := by
  induction e with
  | leaf l => simp [leaves]
  | and l r ihl _ => simp [leaves, ihl]
  | or l r ihl _ => simp [leaves, ihl]
  | not e ih => exact ih

theorem ofText?_eq_none_iff {query : String} :
    Expr.ofText? query = none ↔ ¬LeadsToLeaf (tokens query) := by
  rw [← Parse.succeeds_orChain_iff_leadsToLeaf, Parse.Reading.Succeeds, ← Option.isSome_iff_exists,
    Bool.not_eq_true, Option.isSome_eq_false_iff, Option.isNone_iff_eq_none]
  rfl

theorem read_eq_error_iff {query : String} {fault : SyntaxFault} :
    Expr.read query = .error fault ↔
      fault = ⟨query⟩ ∧ isBlankText query = false ∧ ¬LeadsToLeaf (tokens query) := by
  rw [← ofText?_eq_none_iff, Expr.read]
  cases isBlankText query <;> cases Expr.ofText? query <;> simp [eq_comm]

theorem read_eq_ok_none_iff {query : String} :
    Expr.read query = .ok none ↔ isBlankText query = true := by
  rw [Expr.read]
  cases isBlankText query <;> cases Expr.ofText? query <;> simp

/-- **Recovery loses no leaf in the middle, and fails exactly where no leaf can be reached.** Tokens
have an expression if and only if they lead to a leaf, and the leaves of the expression are then the
first of those among the tokens, at least one of them. What a user typed is no filter if and only if it
is blank, and is refused, with the text as it was typed, if and only if it is not blank and its tokens
lead to no leaf. -/
theorem recovery_iff_leadsToLeaf :
    (∀ ts, ((∃ e, Expr.ofTokens? ts = some e) ↔ LeadsToLeaf ts) ∧
      ∀ e, Expr.ofTokens? ts = some e → e.leaves ≠ [] ∧ e.leaves <+: leavesOf ts) ∧
    ∀ query, (Expr.read query = .ok none ↔ isBlankText query = true) ∧
      ∀ fault, Expr.read query = .error fault ↔
        fault = ⟨query⟩ ∧ isBlankText query = false ∧ ¬LeadsToLeaf (tokens query) := by
  refine ⟨fun ts => ⟨Parse.succeeds_orChain_iff_leadsToLeaf ts, fun e he => ?_⟩, fun query => ?_⟩
  · exact ⟨e.leaves_ne_nil, leaves_prefix_of_ofTokens? he⟩
  · exact ⟨read_eq_ok_none_iff, fun _ => read_eq_error_iff⟩

end NoteSearch
