import NoteSearch.Proofs.Query.Reading

/-!
# What the parser consumes

The parser recovers from whatever it cannot read, and goes on with what it has. This file says that no
leaf is lost on the way: the leaves of an operand are those of the tokens that were read for it, in
their order, and where no operand was found, nothing was read but `NOT` and parentheses
(`NoteSearch.Parse.keepsLeaves_orChain`).

Both halves are needed at once. A chain that is given up in the middle has read the operator and
whatever an unfinished operand left behind, so the first half rests on the second.
-/

namespace NoteSearch

/-- Whether a token is read without an operand to show for it: a `NOT` or a parenthesis. -/
def Token.isFiller : Token → Bool
  | not => true
  | openParen => true
  | closeParen => true
  | _ => false

@[simp] theorem leavesOf_nil : leavesOf [] = [] := rfl

@[simp] theorem leavesOf_leaf (l : Leaf) (ts : List Token) :
    leavesOf (.leaf l :: ts) = l :: leavesOf ts := rfl

theorem leavesOf_cons {t : Token} (ht : t.leaf? = none) (ts : List Token) :
    leavesOf (t :: ts) = leavesOf ts :=
  List.filterMap_cons_none ht

@[simp] theorem leavesOf_append (ts us : List Token) :
    leavesOf (ts ++ us) = leavesOf ts ++ leavesOf us :=
  List.filterMap_append

theorem leavesOf_eq_nil {ts : List Token} (h : ∀ t ∈ ts, t.isFiller = true) : leavesOf ts = [] := by
  refine List.filterMap_eq_nil_iff.mpr fun t ht => ?_
  have hfill := h t ht
  cases t <;> simp_all [Token.isFiller, Token.leaf?]

/-! ### Consuming tokens -/

/-- **These leaves were read**: what was consumed between two places holds them, in this order. -/
def Consumed (ts : List Token) (leaves : List Leaf) (rest : List Token) : Prop :=
  ∃ used, ts = used ++ rest ∧ leavesOf used = leaves

/-- **Nothing of weight was read**: only fillers were consumed between two places. -/
def Skipped (ts rest : List Token) : Prop :=
  ∃ used, ts = used ++ rest ∧ ∀ t ∈ used, t.isFiller = true

variable {ts us rest last : List Token} {ls ms : List Leaf} {e f g : Expr}

theorem Consumed.refl (ts : List Token) : Consumed ts [] ts :=
  ⟨[], rfl, rfl⟩

theorem Consumed.trans (h : Consumed ts ls us) (h' : Consumed us ms rest) :
    Consumed ts (ls ++ ms) rest := by
  obtain ⟨used, rfl, rfl⟩ := h
  obtain ⟨used', rfl, rfl⟩ := h'
  exact ⟨used ++ used', (List.append_assoc ..).symm, leavesOf_append used used'⟩

theorem Consumed.cons {t : Token} (ht : t.leaf? = none) (h : Consumed ts ls rest) :
    Consumed (t :: ts) ls rest := by
  obtain ⟨used, rfl, rfl⟩ := h
  exact ⟨t :: used, rfl, leavesOf_cons ht used⟩

theorem Skipped.refl (ts : List Token) : Skipped ts ts :=
  ⟨[], rfl, by simp⟩

theorem Skipped.cons {t : Token} (ht : t.isFiller = true) (h : Skipped ts rest) :
    Skipped (t :: ts) rest := by
  obtain ⟨used, rfl, hused⟩ := h
  exact ⟨t :: used, rfl, by simpa [ht] using hused⟩

theorem Skipped.trans (h : Skipped ts us) (h' : Skipped us rest) : Skipped ts rest := by
  obtain ⟨used, rfl, hused⟩ := h
  obtain ⟨used', rfl, hused'⟩ := h'
  refine ⟨used ++ used', (List.append_assoc ..).symm, fun t ht => ?_⟩
  exact (List.mem_append.mp ht).elim (hused t) (hused' t)

theorem Skipped.consumed (h : Skipped ts rest) : Consumed ts [] rest := by
  obtain ⟨used, rfl, hused⟩ := h
  exact ⟨used, rfl, leavesOf_eq_nil hused⟩

namespace Parse

theorem skipped_dropClose (ts : List Token) : Skipped ts (dropClose ts) := by
  unfold dropClose
  split
  · exact (Skipped.refl _).cons rfl
  · exact Skipped.refl _

/-! ### Readings keep the leaves -/

/-- **The invariant of a reading**: it consumes the leaves of its operand, or nothing of weight. -/
def Reading.KeepsLeaves (r : Reading ts) : Prop :=
  (∀ e rest, r.Finds e rest → Consumed ts e.leaves rest) ∧ ∀ rest, r.Misses rest → Skipped ts rest

/-- **The invariant of an extension**: an operand grows by the leaves that are consumed. -/
def Extension.KeepsLeaves (left : Expr) (x : Extension ts) : Prop :=
  ∃ ls, x.expr.leaves = left.leaves ++ ls ∧ Consumed ts ls x.rest

theorem Reading.Finds.keepsLeaves {r : Reading ts} (h : r.Finds e rest)
    (hc : Consumed ts e.leaves rest) : r.KeepsLeaves := by
  refine ⟨fun f us hf => ?_, fun us hm => absurd hm h.not_misses⟩
  obtain ⟨rfl, rfl⟩ := h.unique hf
  exact hc

theorem Reading.Misses.keepsLeaves {r : Reading ts} (h : r.Misses rest) (hs : Skipped ts rest) :
    r.KeepsLeaves := by
  refine ⟨fun f us hf => absurd h hf.not_misses, fun us hm => ?_⟩
  obtain rfl := h.unique hm
  exact hs

theorem Extension.Ends.keepsLeaves {x : Extension ts} (h : x.Ends g last)
    (hg : g.leaves = e.leaves ++ ls) (hc : Consumed ts ls last) : x.KeepsLeaves e := by
  obtain ⟨rfl, rfl⟩ := h
  exact ⟨ls, hg, hc⟩

/-- An operand that is found and then grows. -/
theorem Reading.KeepsLeaves.extend {r : Reading ts} {x : Extension rest} (hr : r.KeepsLeaves)
    (h : r.Finds e rest) (hx : x.KeepsLeaves e) : Consumed ts x.expr.leaves x.rest := by
  obtain ⟨ls, hls, hc⟩ := hx
  rw [hls]
  exact (hr.1 e rest h).trans hc

/-- An operand that joins a chain which then grows: the chain has the leaves of both. -/
theorem Reading.KeepsLeaves.join {r : Reading ts} {x : Extension rest} (hr : r.KeepsLeaves)
    (h : r.Finds f rest) (hx : x.KeepsLeaves g) (hg : g.leaves = e.leaves ++ f.leaves) :
    ∃ ls, x.expr.leaves = e.leaves ++ ls ∧ Consumed ts ls x.rest := by
  obtain ⟨ls, hls, hc⟩ := hx
  exact ⟨f.leaves ++ ls, by rw [hls, hg, List.append_assoc], (hr.1 f rest h).trans hc⟩

/-- **The parser keeps the leaves**, at every level and with every token that it meets. -/
theorem keepsLeaves_all :
    (∀ ts, (orChain ts).KeepsLeaves) ∧ (∀ e ts, (orTail e ts).KeepsLeaves e) ∧
      (∀ ts, (andChain ts).KeepsLeaves) ∧ (∀ e ts, (andTail e ts).KeepsLeaves e) ∧
      (∀ ts, (notOperand ts).KeepsLeaves) ∧ ∀ ts, (atom ts).KeepsLeaves := by
  apply orChain.mutual_induct
  -- a chain of `OR`
  · intro ts rest h hread ih
    have hmiss := Reading.misses_of_eq hread
    exact (misses_orChain hmiss).keepsLeaves (ih.2 rest hmiss)
  · intro ts e rest h hread ih ihx
    have hfind := Reading.finds_of_eq hread
    exact (finds_orChain hfind ⟨rfl, rfl⟩).keepsLeaves (ih.extend hfind ihx)
  · intro left ts rest h hread ih
    have hmiss := Reading.misses_of_eq hread
    exact (ends_orTail_or_missing hmiss).keepsLeaves (List.append_nil _).symm
      ((ih.2 rest hmiss).consumed.cons rfl)
  · intro left ts e rest h hread ih ihx
    have hfind := Reading.finds_of_eq hread
    obtain ⟨ls, hls, hc⟩ := ih.join hfind ihx rfl
    exact (ends_orTail_or hfind ⟨rfl, rfl⟩).keepsLeaves hls (hc.cons rfl)
  · intro left ts hor
    have hhead : ts.head? ≠ some .or := fun hc => by
      obtain ⟨us, rfl⟩ := List.head?_eq_some_iff.mp hc
      exact hor us rfl
    exact (ends_orTail hhead).keepsLeaves (List.append_nil _).symm (Consumed.refl ts)
  -- a chain of `AND`
  · intro ts rest h hread ih
    have hmiss := Reading.misses_of_eq hread
    exact (misses_andChain hmiss).keepsLeaves (ih.2 rest hmiss)
  · intro ts e rest h hread ih ihx
    have hfind := Reading.finds_of_eq hread
    exact (finds_andChain hfind ⟨rfl, rfl⟩).keepsLeaves (ih.extend hfind ihx)
  · intro left
    exact (ends_andTail (by simp)).keepsLeaves (List.append_nil _).symm (Consumed.refl [])
  · intro left ts rest h hread ih
    have hmiss := Reading.misses_of_eq hread
    exact (ends_andTail_and_missing hmiss).keepsLeaves (List.append_nil _).symm
      ((ih.2 rest hmiss).consumed.cons rfl)
  · intro left ts e rest h hread ih ihx
    have hfind := Reading.finds_of_eq hread
    obtain ⟨ls, hls, hc⟩ := ih.join hfind ihx rfl
    exact (ends_andTail_and hfind ⟨rfl, rfl⟩).keepsLeaves hls (hc.cons rfl)
  · intro left t ts hand hstart rest h hread ih
    have hmiss := Reading.misses_of_eq hread
    exact (ends_andTail_beside_missing hstart hmiss).keepsLeaves (List.append_nil _).symm
      (ih.2 rest hmiss).consumed
  · intro left t ts hand hstart right rest h hread ih ihx
    have hfind := Reading.finds_of_eq hread
    obtain ⟨ls, hls, hc⟩ := ih.join hfind ihx rfl
    exact (ends_andTail_beside hstart hfind ⟨rfl, rfl⟩).keepsLeaves hls hc
  · intro left t ts hand hstart
    have hend : ∀ t' ∈ (t :: ts).head?, t' ≠ .and ∧ t'.startsAtom = false := by
      simpa using And.intro hand hstart
    exact (ends_andTail hend).keepsLeaves (List.append_nil _).symm (Consumed.refl _)
  -- an operand
  · intro ts rest h hread ih
    have hmiss := Reading.misses_of_eq hread
    exact (misses_notOperand_not hmiss).keepsLeaves ((ih.2 rest hmiss).cons rfl)
  · intro ts e rest h hread ih
    have hfind := Reading.finds_of_eq hread
    exact (finds_notOperand_not hfind).keepsLeaves ((ih.1 e rest hfind).cons rfl)
  · intro ts hnot ih
    have hhead : ts.head? ≠ some .not := fun hc => by
      obtain ⟨us, rfl⟩ := List.head?_eq_some_iff.mp hc
      exact hnot us rfl
    rw [notOperand_eq_atom hhead]
    exact ih
  -- an atom
  · intro l ts
    exact (finds_atom_leaf l ts).keepsLeaves ⟨[.leaf l], rfl, rfl⟩
  · intro ts rest h hread ih
    have hmiss := Reading.misses_of_eq hread
    exact (misses_atom_group hmiss).keepsLeaves
      (((ih.2 rest hmiss).trans (skipped_dropClose rest)).cons rfl)
  · intro ts e rest h hread ih
    have hfind := Reading.finds_of_eq hread
    have hclose := (ih.1 e rest hfind).trans (skipped_dropClose rest).consumed
    rw [List.append_nil] at hclose
    exact (finds_atom_group hfind).keepsLeaves (hclose.cons rfl)
  · intro ts hleaf hopen
    exact (misses_atom hleaf hopen).keepsLeaves (Skipped.refl ts)

theorem keepsLeaves_orChain (ts : List Token) : (orChain ts).KeepsLeaves :=
  keepsLeaves_all.1 ts

end Parse

/-- **The leaves of a parsed expression are a prefix of the leaves of its tokens.** -/
theorem leaves_prefix_of_ofTokens? (h : Expr.ofTokens? ts = some e) : e.leaves <+: leavesOf ts := by
  obtain ⟨used, hts, hused⟩ := (Parse.keepsLeaves_orChain ts).1 e _ ⟨h, rfl⟩
  rw [hts, leavesOf_append, hused]
  exact List.prefix_append ..

end NoteSearch
