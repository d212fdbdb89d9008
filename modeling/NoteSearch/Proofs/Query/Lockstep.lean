import NoteSearch.Proofs.Query.Reading

/-!
# Two runs of the parser in step

The parser sees its tokens one at a time, and of each only the kind. So two sequences of tokens are parsed
alike as soon as it can be said, for every place in the one, which place in the other corresponds to it. This
file turns that into a principle. What has to be given is a relation between the tokens that are left in the
two runs, at every depth of groups, and what has to be checked is one turn at a time
(`NoteSearch.Parse.Lockstep`): related rests begin with the same token, and are related after it.

Two liberties are allowed, and they are what the principle is for. An `AND` may be left out in the first run
where it stands in the second (`NoteSearch.Parse.Between`), and the first run may be at its end where the
second is at a closing parenthesis. Neither makes a difference to what is built
(`NoteSearch.Parse.Lockstep.ofTokens?_eq`).

The leaves of the second run may even be other leaves than those of the first. What a leaf asks for is none
of the parser's business (`NoteSearch.ofTokens?_map_mapLeaf`).
-/

namespace NoteSearch

/-- A token with its leaf replaced, if it has one. -/
def Token.mapLeaf (f : Leaf → Leaf) : Token → Token
  | leaf l => leaf (f l)
  | t => t

/-- **An expression with its leaves replaced.** -/
def Expr.mapLeaf (f : Leaf → Leaf) : Expr → Expr
  | leaf l => leaf (f l)
  | and l r => and (l.mapLeaf f) (r.mapLeaf f)
  | or l r => or (l.mapLeaf f) (r.mapLeaf f)
  | not e => not (e.mapLeaf f)

theorem Token.mapLeaf_id (t : Token) : t.mapLeaf id = t := by
  cases t <;> rfl

theorem Expr.mapLeaf_id (e : Expr) : e.mapLeaf id = e := by
  induction e <;> simp_all [mapLeaf]

namespace Parse

variable {f : Leaf → Leaf} {d : Nat} {ts us vs rest last : List Token} {e g left : Expr}

/-! ### Where a chain of `AND` goes on -/

/-- **A further operand is joined here**, behind an `AND` or without one, and is looked for at `us`. -/
def JoinsAt (ts us : List Token) : Prop :=
  ts = .and :: us ∨ (ts = us ∧ ∃ t ∈ us.head?, t.startsAtom = true)

theorem JoinsAt.ends (h : JoinsAt ts us) (hread : (notOperand us).Finds e rest)
    (hx : (andTail (.and left e) rest).Ends g last) : (andTail left ts).Ends g last := by
  rcases h with rfl | ⟨rfl, t, ht, hstart⟩
  · exact ends_andTail_and hread hx
  · obtain ⟨vs, rfl⟩ := List.head?_eq_some_iff.mp ht
    exact ends_andTail_beside hstart hread hx

theorem JoinsAt.ends_missing (h : JoinsAt ts us) (hread : (notOperand us).Misses rest) :
    (andTail left ts).Ends left rest := by
  rcases h with rfl | ⟨rfl, t, ht, hstart⟩
  · exact ends_andTail_and_missing hread
  · obtain ⟨vs, rfl⟩ := List.head?_eq_some_iff.mp ht
    exact ends_andTail_beside_missing hstart hread

/-! ### Relations between two runs -/

/-- A relation between the tokens that are left in two runs, for each number of groups that are open. -/
abbrev Pairing :=
  Nat → List Token → List Token → Prop

variable {R : Pairing}

/-- **Between two operands**: the rests are related, or they are once the second run has read an `AND` that
the first run does without. -/
def Between (R : Pairing) (d : Nat) (ts us : List Token) : Prop :=
  R d ts us ∨ ∃ vs, us = .and :: vs ∧ R d ts vs ∧ ∃ t ∈ ts.head?, t.startsAtom = true

/-- Nothing more is read here: the end, or a closing parenthesis. -/
def AtStop (ts : List Token) : Prop :=
  ts = [] ∨ ∃ us, ts = .closeParen :: us

/-- **One turn of two runs**, `d` groups deep: what their rests begin with, and how they go on after it. A
closing parenthesis is read by a group only, and where there is none it may be missing in the first run. -/
inductive Turn (f : Leaf → Leaf) (R : Pairing) (d : Nat) : List Token → List Token → Prop
  /-- An operand ends here. -/
  | leaf {l : Leaf} {ts us : List Token} : Between R d ts us →
      Turn f R d (.leaf l :: ts) (.leaf (f l) :: us)
  /-- An operand is to follow. -/
  | and {ts us : List Token} : R d ts us → Turn f R d (.and :: ts) (.and :: us)
  /-- An operand is to follow. -/
  | or {ts us : List Token} : R d ts us → Turn f R d (.or :: ts) (.or :: us)
  /-- An operand is to follow. -/
  | not {ts us : List Token} : R d ts us → Turn f R d (.not :: ts) (.not :: us)
  /-- A group is opened. -/
  | openParen {ts us : List Token} : R (d + 1) ts us →
      Turn f R d (.openParen :: ts) (.openParen :: us)
  /-- The innermost group is closed, if one is open. -/
  | closeParen {ts us : List Token} : (∀ n, d = n + 1 → Between R n ts us) →
      Turn f R d (.closeParen :: ts) (.closeParen :: us)
  /-- The first run is at its end. -/
  | stop {us : List Token} : AtStop us → (∀ n, d = n + 1 → R n [] (dropClose us)) →
      Turn f R d [] us

/-- **A relation that the parser cannot leave**: related rests take one turn together, and stay related when a
group is left without having been closed. -/
structure Lockstep (f : Leaf → Leaf) (R : Pairing) : Prop where
  /-- The turn that related rests take. -/
  turn {d : Nat} {ts us : List Token} : R d ts us → Turn f R d ts us
  /-- A group may be left without a closing parenthesis. -/
  leave {d : Nat} {ts us : List Token} : R (d + 1) ts us → R d ts us

theorem dropClose_eq_self (h : ts.head? ≠ some .closeParen) : dropClose ts = ts := by
  rw [dropClose]
  rintro us rfl
  exact h rfl

/-- A group ends: its closing parenthesis is read in both runs, or in one that has it, or in none. -/
theorem Lockstep.between_dropClose (hR : Lockstep f R) (h : Between R (d + 1) ts us) :
    Between R d (dropClose ts) (dropClose us) := by
  rcases h with h | ⟨vs, rfl, h, t, ht, hstart⟩
  · have hleave := hR.leave h
    cases hR.turn h with
    | closeParen hnext => exact hnext d rfl
    | stop _ hnext => exact Or.inl (hnext d rfl)
    | _ => exact Or.inl hleave
  · -- the first run goes on with an operand, so there is no parenthesis to read
    have hclose : ts.head? ≠ some .closeParen := fun hc => by
      obtain rfl := Option.some.inj (hc.symm.trans ht)
      exact absurd hstart (by decide)
    rw [dropClose_eq_self hclose, dropClose_eq_self (by simp)]
    exact Or.inr ⟨vs, rfl, hR.leave h, t, ht, hstart⟩

theorem Lockstep.exists_or (hR : Lockstep f R) (h : Between R d (.or :: ts) us) :
    ∃ vs, us = .or :: vs ∧ R d ts vs := by
  rcases h with h | ⟨vs, rfl, h, t, ht, hstart⟩
  · cases hR.turn h with
    | or hnext => exact ⟨_, rfl, hnext⟩
  · obtain rfl := Option.some.inj ht
    exact absurd hstart (by decide)

theorem Lockstep.head?_ne_or (hR : Lockstep f R) (h : Between R d ts us) (hor : ts.head? ≠ some .or) :
    us.head? ≠ some .or := by
  rcases h with h | ⟨vs, rfl, -⟩
  · cases hR.turn h with
    | or _ => exact absurd rfl hor
    | stop hstop _ => rcases hstop with rfl | ⟨us, rfl⟩ <;> simp
    | _ => simp
  · simp

/-- Where the first run joins an operand, so does the second. -/
theorem Lockstep.exists_joinsAt (hR : Lockstep f R) (h : Between R d ts us) (hjoin : JoinsAt ts rest) :
    ∃ vs, JoinsAt us vs ∧ R d rest vs := by
  rcases hjoin with rfl | ⟨rfl, t, ht, hstart⟩
  · rcases h with h | ⟨vs, rfl, h, t, ht, hstart⟩
    · cases hR.turn h with
      | and hnext => exact ⟨_, Or.inl rfl, hnext⟩
    · obtain rfl := Option.some.inj ht
      exact absurd hstart (by decide)
  · rcases h with h | ⟨vs, rfl, h, -⟩
    · refine ⟨us, Or.inr ⟨rfl, ?_⟩, h⟩
      cases hR.turn h with
      | leaf _ => exact ⟨_, rfl, rfl⟩
      | openParen _ => exact ⟨_, rfl, rfl⟩
      | stop _ _ => simp at ht
      | _ => obtain rfl := Option.some.inj ht; exact absurd hstart (by decide)
    · exact ⟨vs, Or.inl rfl, h⟩

/-- Where the first run joins nothing, the second does not either. -/
theorem Lockstep.ends_chain (hR : Lockstep f R) (h : Between R d ts us)
    (hend : ∀ t ∈ ts.head?, t ≠ .and ∧ t.startsAtom = false) :
    ∀ t ∈ us.head?, t ≠ .and ∧ t.startsAtom = false := by
  rcases h with h | ⟨vs, rfl, -, t, ht, hstart⟩
  · cases hR.turn h with
    | leaf _ => exact absurd (hend _ rfl).2 (by simp [Token.startsAtom])
    | openParen _ => exact absurd (hend _ rfl).2 (by simp [Token.startsAtom])
    | and _ => exact absurd rfl (hend _ rfl).1
    | stop hstop _ => rcases hstop with rfl | ⟨us, rfl⟩ <;> simp [Token.startsAtom]
    | _ => simp [Token.startsAtom]
  · rw [(hend t ht).2] at hstart
    exact absurd hstart (by decide)

theorem Lockstep.head?_ne_not (hR : Lockstep f R) (h : R d ts us) (hnot : ts.head? ≠ some .not) :
    us.head? ≠ some .not := by
  cases hR.turn h with
  | not _ => exact absurd rfl hnot
  | stop hstop _ => rcases hstop with rfl | ⟨us, rfl⟩ <;> simp
  | _ => simp

theorem Lockstep.misses (hR : Lockstep f R) (h : R d ts us)
    (hleaf : ∀ l vs, ts ≠ .leaf l :: vs) (hopen : ∀ vs, ts ≠ .openParen :: vs) :
    (atom us).Misses us := by
  cases hR.turn h with
  | leaf _ => exact absurd rfl (hleaf _ _)
  | openParen _ => exact absurd rfl (hopen _)
  | stop hstop _ => rcases hstop with rfl | ⟨us, rfl⟩ <;> exact misses_atom (by simp) (by simp)
  | _ => exact misses_atom (by simp) (by simp)

/-! ### Readings in step -/

/-- **A reading is followed by another**: the other finds the same operand, with its leaves replaced, or
misses as well. -/
def Reading.FollowedBy (f : Leaf → Leaf) (R : Pairing) (d : Nat) (r : Reading ts) (r' : Reading us) : Prop :=
  (∀ e rest, r.Finds e rest → ∃ rest', r'.Finds (e.mapLeaf f) rest' ∧ Between R d rest rest') ∧
    ∀ rest, r.Misses rest → ∃ rest', r'.Misses rest' ∧ Between R d rest rest'

/-- **An extension is followed by another.** -/
def Extension.FollowedBy (f : Leaf → Leaf) (R : Pairing) (d : Nat) (x : Extension ts) (x' : Extension us) :
    Prop :=
  ∃ rest', x'.Ends (x.expr.mapLeaf f) rest' ∧ Between R d x.rest rest'

theorem Reading.Finds.followedBy {r : Reading ts} {r' : Reading us} (h : r.Finds e rest)
    (h' : r'.Finds (e.mapLeaf f) vs) (hb : Between R d rest vs) : r.FollowedBy f R d r' := by
  refine ⟨fun g last hg => ?_, fun last hm => absurd hm h.not_misses⟩
  obtain ⟨rfl, rfl⟩ := h.unique hg
  exact ⟨vs, h', hb⟩

theorem Reading.Misses.followedBy {r : Reading ts} {r' : Reading us} (h : r.Misses rest)
    (h' : r'.Misses vs) (hb : Between R d rest vs) : r.FollowedBy f R d r' := by
  refine ⟨fun g last hg => absurd h hg.not_misses, fun last hm => ?_⟩
  obtain rfl := h.unique hm
  exact ⟨vs, h', hb⟩

theorem Extension.Ends.followedBy {x : Extension ts} {x' : Extension us} (h : x.Ends g last)
    (h' : x'.Ends (g.mapLeaf f) vs) (hb : Between R d last vs) : x.FollowedBy f R d x' := by
  obtain ⟨rfl, rfl⟩ := h
  exact ⟨vs, h', hb⟩

/-- **Two runs stay in step**, at every level of the parser and with any tokens. Where an operand is looked
for, the rests are related; where one has ended, they are between two operands; and in a group they are so one
group deeper. -/
theorem Lockstep.followedBy_all (hR : Lockstep f R) :
    (∀ ts d us, R d ts us → (orChain ts).FollowedBy f R d (orChain us)) ∧
      (∀ left ts d us, Between R d ts us →
        (orTail left ts).FollowedBy f R d (orTail (left.mapLeaf f) us)) ∧
      (∀ ts d us, R d ts us → (andChain ts).FollowedBy f R d (andChain us)) ∧
      (∀ left ts d us, Between R d ts us →
        (andTail left ts).FollowedBy f R d (andTail (left.mapLeaf f) us)) ∧
      (∀ ts d us, R d ts us → (notOperand ts).FollowedBy f R d (notOperand us)) ∧
      ∀ ts d us, R d ts us → (atom ts).FollowedBy f R d (atom us) := by
  apply orChain.mutual_induct
  -- a chain of `OR`
  · intro ts rest h hread ih d us hts
    have hmiss := Reading.misses_of_eq hread
    obtain ⟨rest', hmiss', hb⟩ := (ih d us hts).2 rest hmiss
    exact (misses_orChain hmiss).followedBy (misses_orChain hmiss') hb
  · intro ts e rest h hread ih ihx d us hts
    have hfind := Reading.finds_of_eq hread
    obtain ⟨rest', hfind', hb⟩ := (ih d us hts).1 e rest hfind
    obtain ⟨last', hx', hb'⟩ := ihx d rest' hb
    exact (finds_orChain hfind ⟨rfl, rfl⟩).followedBy (finds_orChain hfind' hx') hb'
  · intro left ts rest h hread ih d us hts
    obtain ⟨us, rfl, hnext⟩ := hR.exists_or hts
    have hmiss := Reading.misses_of_eq hread
    obtain ⟨rest', hmiss', hb⟩ := (ih d us hnext).2 rest hmiss
    exact (ends_orTail_or_missing hmiss).followedBy (ends_orTail_or_missing hmiss') hb
  · intro left ts e rest h hread ih ihx d us hts
    obtain ⟨us, rfl, hnext⟩ := hR.exists_or hts
    have hfind := Reading.finds_of_eq hread
    obtain ⟨rest', hfind', hb⟩ := (ih d us hnext).1 e rest hfind
    obtain ⟨last', hx', hb'⟩ := ihx d rest' hb
    exact (ends_orTail_or hfind ⟨rfl, rfl⟩).followedBy (ends_orTail_or hfind' hx') hb'
  · intro left ts hor d us hts
    have hhead : ts.head? ≠ some .or := fun hc => by
      obtain ⟨us, rfl⟩ := List.head?_eq_some_iff.mp hc
      exact hor us rfl
    exact (ends_orTail hhead).followedBy (ends_orTail (hR.head?_ne_or hts hhead)) hts
  -- a chain of `AND`
  · intro ts rest h hread ih d us hts
    have hmiss := Reading.misses_of_eq hread
    obtain ⟨rest', hmiss', hb⟩ := (ih d us hts).2 rest hmiss
    exact (misses_andChain hmiss).followedBy (misses_andChain hmiss') hb
  · intro ts e rest h hread ih ihx d us hts
    have hfind := Reading.finds_of_eq hread
    obtain ⟨rest', hfind', hb⟩ := (ih d us hts).1 e rest hfind
    obtain ⟨last', hx', hb'⟩ := ihx d rest' hb
    exact (finds_andChain hfind ⟨rfl, rfl⟩).followedBy (finds_andChain hfind' hx') hb'
  · intro left d us hts
    exact (ends_andTail (by simp)).followedBy (ends_andTail (hR.ends_chain hts (by simp))) hts
  · intro left ts rest h hread ih d us hts
    have hmiss := Reading.misses_of_eq hread
    obtain ⟨vs, hjoin, hnext⟩ := hR.exists_joinsAt hts (Or.inl rfl)
    obtain ⟨rest', hmiss', hb⟩ := (ih d vs hnext).2 rest hmiss
    exact (ends_andTail_and_missing hmiss).followedBy (hjoin.ends_missing hmiss') hb
  · intro left ts e rest h hread ih ihx d us hts
    have hfind := Reading.finds_of_eq hread
    obtain ⟨vs, hjoin, hnext⟩ := hR.exists_joinsAt hts (Or.inl rfl)
    obtain ⟨rest', hfind', hb⟩ := (ih d vs hnext).1 e rest hfind
    obtain ⟨last', hx', hb'⟩ := ihx d rest' hb
    exact (ends_andTail_and hfind ⟨rfl, rfl⟩).followedBy (hjoin.ends hfind' hx') hb'
  · intro left t ts hand hstart rest h hread ih d us hts
    have hmiss := Reading.misses_of_eq hread
    obtain ⟨vs, hjoin, hnext⟩ := hR.exists_joinsAt hts (Or.inr ⟨rfl, t, rfl, hstart⟩)
    obtain ⟨rest', hmiss', hb⟩ := (ih d vs hnext).2 rest hmiss
    exact (ends_andTail_beside_missing hstart hmiss).followedBy (hjoin.ends_missing hmiss') hb
  · intro left t ts hand hstart right rest h hread ih ihx d us hts
    have hfind := Reading.finds_of_eq hread
    obtain ⟨vs, hjoin, hnext⟩ := hR.exists_joinsAt hts (Or.inr ⟨rfl, t, rfl, hstart⟩)
    obtain ⟨rest', hfind', hb⟩ := (ih d vs hnext).1 right rest hfind
    obtain ⟨last', hx', hb'⟩ := ihx d rest' hb
    exact (ends_andTail_beside hstart hfind ⟨rfl, rfl⟩).followedBy (hjoin.ends hfind' hx') hb'
  · intro left t ts hand hstart d us hts
    have hend : ∀ t' ∈ (t :: ts).head?, t' ≠ .and ∧ t'.startsAtom = false := by
      simpa using And.intro hand hstart
    exact (ends_andTail hend).followedBy (ends_andTail (hR.ends_chain hts hend)) hts
  -- an operand
  · intro ts rest h hread ih d us hts
    have hmiss := Reading.misses_of_eq hread
    cases hR.turn hts with
    | not hnext =>
      obtain ⟨rest', hmiss', hb⟩ := (ih d _ hnext).2 rest hmiss
      exact (misses_notOperand_not hmiss).followedBy (misses_notOperand_not hmiss') hb
  · intro ts e rest h hread ih d us hts
    have hfind := Reading.finds_of_eq hread
    cases hR.turn hts with
    | not hnext =>
      obtain ⟨rest', hfind', hb⟩ := (ih d _ hnext).1 e rest hfind
      exact (finds_notOperand_not hfind).followedBy (finds_notOperand_not hfind') hb
  · intro ts hnot ih d us hts
    have hhead : ts.head? ≠ some .not := fun hc => by
      obtain ⟨us, rfl⟩ := List.head?_eq_some_iff.mp hc
      exact hnot us rfl
    rw [notOperand_eq_atom hhead, notOperand_eq_atom (hR.head?_ne_not hts hhead)]
    exact ih d us hts
  -- an atom
  · intro l ts d us hts
    cases hR.turn hts with
    | leaf hb => exact (finds_atom_leaf l ts).followedBy (finds_atom_leaf (f l) _) hb
  · intro ts rest h hread ih d us hts
    have hmiss := Reading.misses_of_eq hread
    cases hR.turn hts with
    | openParen hnext =>
      obtain ⟨rest', hmiss', hb⟩ := (ih (d + 1) _ hnext).2 rest hmiss
      exact (misses_atom_group hmiss).followedBy (misses_atom_group hmiss') (hR.between_dropClose hb)
  · intro ts e rest h hread ih d us hts
    have hfind := Reading.finds_of_eq hread
    cases hR.turn hts with
    | openParen hnext =>
      obtain ⟨rest', hfind', hb⟩ := (ih (d + 1) _ hnext).1 e rest hfind
      exact (finds_atom_group hfind).followedBy (finds_atom_group hfind') (hR.between_dropClose hb)
  · intro ts hleaf hopen d us hts
    exact (misses_atom hleaf hopen).followedBy (hR.misses hts hleaf hopen) (Or.inl hts)

/-- **Related tokens spell the same expression**, but for the leaves that are replaced. -/
theorem Lockstep.ofTokens?_eq_map (hR : Lockstep f R) (h : R 0 ts us) :
    Expr.ofTokens? us = (Expr.ofTokens? ts).map (Expr.mapLeaf f) := by
  obtain ⟨hfinds, hmisses⟩ := hR.followedBy_all.1 ts 0 us h
  rw [Expr.ofTokens?, Expr.ofTokens?]
  cases hread : (orChain ts).expr? with
  | some e =>
    obtain ⟨_, hfind, -⟩ := hfinds e _ ⟨hread, rfl⟩
    exact hfind.1
  | none =>
    obtain ⟨_, hmiss, -⟩ := hmisses _ ⟨hread, rfl⟩
    exact hmiss.1

/-- **Related tokens spell the same expression.** -/
theorem Lockstep.ofTokens?_eq (hR : Lockstep id R) (h : R 0 ts us) :
    Expr.ofTokens? us = Expr.ofTokens? ts := by
  rw [hR.ofTokens?_eq_map h]
  cases Expr.ofTokens? ts with
  | none => rfl
  | some e => exact congrArg some e.mapLeaf_id

/-- A turn past tokens of the same kind, for a relation in which depth plays no part. -/
theorem Turn.of_forall (t : Token) (h : ∀ n, R n ts us) : Turn f R d (t :: ts) (t.mapLeaf f :: us) := by
  cases t with
  | leaf l => exact .leaf (Or.inl (h d))
  | and => exact .and (h d)
  | or => exact .or (h d)
  | not => exact .not (h d)
  | openParen => exact .openParen (h (d + 1))
  | closeParen => exact .closeParen fun n _ => Or.inl (h n)

theorem Turn.of_forall_same (t : Token) (h : ∀ n, R n ts us) : Turn id R d (t :: ts) (t :: us) := by
  have hturn : Turn id R d (t :: ts) (t.mapLeaf id :: us) := .of_forall t h
  rwa [Token.mapLeaf_id] at hturn

/-! ### Replacing leaves -/

/-- The second run reads the tokens of the first with their leaves replaced. -/
def Relabeled (f : Leaf → Leaf) : Pairing := fun _ ts us => us = ts.map (Token.mapLeaf f)

theorem lockstep_relabeled (f : Leaf → Leaf) : Lockstep f (Relabeled f) := by
  refine ⟨fun {d ts us} h => ?_, id⟩
  obtain rfl := h
  cases ts with
  | nil => exact .stop (Or.inl rfl) fun _ _ => rfl
  | cons t ts => exact .of_forall t fun _ => rfl

end Parse

/-- **Replacing leaves before or after parsing** makes no difference. -/
theorem ofTokens?_map_mapLeaf (f : Leaf → Leaf) (ts : List Token) :
    Expr.ofTokens? (ts.map (Token.mapLeaf f)) = (Expr.ofTokens? ts).map (Expr.mapLeaf f) :=
  (Parse.lockstep_relabeled f).ofTokens?_eq_map rfl

end NoteSearch
