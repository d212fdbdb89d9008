import NoteSearch.Query.Parse

/-!
# The steps of the parser

The parser's results carry the proof that nothing was invented, and so the type of a result depends on
the tokens it was read from. To compare readings of different tokens, this file looks at what is left
when the proofs are dropped: the operand, if there is one, and the tokens after it
(`NoteSearch.Parse.Reading.Finds`, `NoteSearch.Parse.Reading.Misses`,
`NoteSearch.Parse.Extension.Ends`).

For each of the six functions there is then one lemma for each way that it can go on. Nothing after
this file opens a function of the parser.
-/

namespace NoteSearch

namespace Parse

variable {ts us rest last : List Token} {e f g : Expr}

/-! ### Results without their proofs -/

/-- **An operand was found**, and these tokens are left. -/
def Reading.Finds (r : Reading ts) (e : Expr) (rest : List Token) : Prop :=
  r.expr? = some e ∧ r.rest = rest

/-- **No operand was found**, and these tokens are left. -/
def Reading.Misses (r : Reading ts) (rest : List Token) : Prop :=
  r.expr? = none ∧ r.rest = rest

/-- **An operand has grown** into this one, and these tokens are left. -/
def Extension.Ends (x : Extension ts) (e : Expr) (rest : List Token) : Prop :=
  x.expr = e ∧ x.rest = rest

theorem Reading.finds_of_eq {r : Reading ts} {shorter : rest.length < ts.length}
    (h : r = .found e rest shorter) : r.Finds e rest := by
  rw [h]
  exact ⟨rfl, rfl⟩

theorem Reading.misses_of_eq {r : Reading ts} {noLonger : rest.length ≤ ts.length}
    (h : r = .missing rest noLonger) : r.Misses rest := by
  rw [h]
  exact ⟨rfl, rfl⟩

theorem Reading.Finds.exists_eq {r : Reading ts} (h : r.Finds e rest) :
    ∃ shorter, r = .found e rest shorter := by
  cases r with
  | found e' rest' shorter =>
    obtain ⟨he, rfl⟩ := h
    obtain rfl := Option.some.inj he
    exact ⟨shorter, rfl⟩
  | missing rest' noLonger => simp [Finds, expr?] at h

theorem Reading.Misses.exists_eq {r : Reading ts} (h : r.Misses rest) :
    ∃ noLonger, r = .missing rest noLonger := by
  cases r with
  | found e' rest' shorter => simp [Misses, expr?] at h
  | missing rest' noLonger =>
    obtain ⟨-, rfl⟩ := h
    exact ⟨noLonger, rfl⟩

theorem Reading.Finds.unique {r : Reading ts} (h : r.Finds e rest) (h' : r.Finds f last) :
    e = f ∧ rest = last :=
  ⟨Option.some.inj (h.1.symm.trans h'.1), h.2.symm.trans h'.2⟩

theorem Reading.Misses.unique {r : Reading ts} (h : r.Misses rest) (h' : r.Misses last) : rest = last :=
  h.2.symm.trans h'.2

/-- A reading does not both find and miss. -/
theorem Reading.Finds.not_misses {r : Reading ts} (h : r.Finds e rest) : ¬r.Misses last := fun hm =>
  Option.some_ne_none e (h.1.symm.trans hm.1)

/-! ### A leaf or a group -/

theorem finds_atom_leaf (l : Leaf) (ts : List Token) :
    (atom (.leaf l :: ts)).Finds (.leaf l) ts := by
  rw [atom]
  exact ⟨rfl, rfl⟩

theorem finds_atom_group (h : (orChain ts).Finds e rest) :
    (atom (.openParen :: ts)).Finds e (dropClose rest) := by
  obtain ⟨shorter, h⟩ := h.exists_eq
  rw [atom, h]
  exact ⟨rfl, rfl⟩

theorem misses_atom_group (h : (orChain ts).Misses rest) :
    (atom (.openParen :: ts)).Misses (dropClose rest) := by
  obtain ⟨noLonger, h⟩ := h.exists_eq
  rw [atom, h]
  exact ⟨rfl, rfl⟩

theorem misses_atom (hleaf : ∀ l us, ts ≠ .leaf l :: us) (hopen : ∀ us, ts ≠ .openParen :: us) :
    (atom ts).Misses ts := by
  rw [atom]
  · exact ⟨rfl, rfl⟩
  · exact hleaf
  · exact hopen

/-! ### An operand with its `NOT` -/

theorem finds_notOperand_not (h : (atom ts).Finds e rest) :
    (notOperand (.not :: ts)).Finds (.not e) rest := by
  obtain ⟨shorter, h⟩ := h.exists_eq
  rw [notOperand, h]
  exact ⟨rfl, rfl⟩

theorem misses_notOperand_not (h : (atom ts).Misses rest) :
    (notOperand (.not :: ts)).Misses rest := by
  obtain ⟨noLonger, h⟩ := h.exists_eq
  rw [notOperand, h]
  exact ⟨rfl, rfl⟩

theorem notOperand_eq_atom (h : ts.head? ≠ some .not) : notOperand ts = atom ts := by
  rw [notOperand]
  rintro us rfl
  exact h rfl

/-! ### A chain of `AND` -/

theorem finds_andChain (h : (notOperand ts).Finds e rest) (hx : (andTail e rest).Ends g last) :
    (andChain ts).Finds g last := by
  obtain ⟨shorter, h⟩ := h.exists_eq
  rw [andChain, h]
  exact ⟨congrArg some hx.1, hx.2⟩

theorem misses_andChain (h : (notOperand ts).Misses rest) : (andChain ts).Misses rest := by
  obtain ⟨noLonger, h⟩ := h.exists_eq
  rw [andChain, h]
  exact ⟨rfl, rfl⟩

/-- **A chain of `AND` stops** at the end, and at a token that neither is `AND` nor starts an atom. -/
theorem ends_andTail (h : ∀ t ∈ ts.head?, t ≠ .and ∧ t.startsAtom = false) :
    (andTail e ts).Ends e ts := by
  cases ts with
  | nil =>
    rw [andTail]
    exact ⟨rfl, rfl⟩
  | cons t ts =>
    obtain ⟨hand, hstart⟩ := h t rfl
    rw [andTail, if_neg (by simp [hstart])]
    · exact ⟨rfl, rfl⟩
    · exact hand

theorem ends_andTail_and (h : (notOperand ts).Finds f rest)
    (hx : (andTail (.and e f) rest).Ends g last) : (andTail e (.and :: ts)).Ends g last := by
  obtain ⟨shorter, h⟩ := h.exists_eq
  rw [andTail, h]
  exact hx

/-- An `AND` without an operand after it is read and forgotten. -/
theorem ends_andTail_and_missing (h : (notOperand ts).Misses rest) :
    (andTail e (.and :: ts)).Ends e rest := by
  obtain ⟨noLonger, h⟩ := h.exists_eq
  rw [andTail, h]
  exact ⟨rfl, rfl⟩

theorem ends_andTail_beside {t : Token} (ht : t.startsAtom = true)
    (h : (notOperand (t :: ts)).Finds f rest) (hx : (andTail (.and e f) rest).Ends g last) :
    (andTail e (t :: ts)).Ends g last := by
  obtain ⟨shorter, h⟩ := h.exists_eq
  rw [andTail, if_pos ht, h]
  · exact hx
  · rintro rfl
    exact absurd ht (by decide)

theorem ends_andTail_beside_missing {t : Token} (ht : t.startsAtom = true)
    (h : (notOperand (t :: ts)).Misses rest) : (andTail e (t :: ts)).Ends e rest := by
  obtain ⟨noLonger, h⟩ := h.exists_eq
  rw [andTail, if_pos ht, h]
  · exact ⟨rfl, rfl⟩
  · rintro rfl
    exact absurd ht (by decide)

/-! ### A chain of `OR` -/

theorem finds_orChain (h : (andChain ts).Finds e rest) (hx : (orTail e rest).Ends g last) :
    (orChain ts).Finds g last := by
  obtain ⟨shorter, h⟩ := h.exists_eq
  rw [orChain, h]
  exact ⟨congrArg some hx.1, hx.2⟩

theorem misses_orChain (h : (andChain ts).Misses rest) : (orChain ts).Misses rest := by
  obtain ⟨noLonger, h⟩ := h.exists_eq
  rw [orChain, h]
  exact ⟨rfl, rfl⟩

/-- **A chain of `OR` stops** where no `OR` stands. -/
theorem ends_orTail (h : ts.head? ≠ some .or) : (orTail e ts).Ends e ts := by
  rw [orTail]
  · exact ⟨rfl, rfl⟩
  · rintro us rfl
    exact h rfl

theorem ends_orTail_or (h : (andChain ts).Finds f rest)
    (hx : (orTail (.or e f) rest).Ends g last) : (orTail e (.or :: ts)).Ends g last := by
  obtain ⟨shorter, h⟩ := h.exists_eq
  rw [orTail, h]
  exact hx

/-- An `OR` without an operand after it is read and forgotten. -/
theorem ends_orTail_or_missing (h : (andChain ts).Misses rest) :
    (orTail e (.or :: ts)).Ends e rest := by
  obtain ⟨noLonger, h⟩ := h.exists_eq
  rw [orTail, h]
  exact ⟨rfl, rfl⟩

end Parse

end NoteSearch
