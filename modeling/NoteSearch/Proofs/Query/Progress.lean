import NoteSearch.Proofs.Query.Consumption

/-!
# The parser gets on

The levels of the parser call one another, the innermost one calls the outermost one again, and two of them
go round in a loop that reads nothing of its own where operands stand side by side. That all of this comes
to an end rests on one fact: whoever finds an operand has read a token, and whoever finds none has passed
nothing but fillers.

The first part of this file says so in terms of places among the tokens. A reading starts at a place and
stops at a place (`NoteSearch.Parse.Reading.StopsAt`), and every level has such a place for every start
(`NoteSearch.Parse.Advances`). The second part takes the two loops apart into rounds. A round that is not
the last one leaves fewer tokens than it was given, so there are no more rounds than tokens
(`NoteSearch.Parse.exists_endsAfter`), and what the rounds come to is what the parser returns.
-/

namespace NoteSearch

namespace Parse

variable {tokens ts us rest last used : List Token} {p q n : Nat} {e f g : Expr}

/-! ### Places -/

/-- **A reading from the place `p` on stops at the place `q`.** -/
structure Reading.StopsAt (r : Reading (tokens.drop p)) (q : Nat) : Prop where
  /-- The tokens from there on are left. -/
  rest_eq : r.rest = tokens.drop q
  /-- The parser does not go back. -/
  start_le : p ≤ q
  /-- It does not go beyond the end. -/
  le_length : q ≤ tokens.length
  /-- Finding an operand takes a token at least. -/
  start_lt : ∀ e, r.expr? = some e → p < q
  /-- Where no operand is found, the tokens in between are fillers. -/
  isFiller : r.expr? = none → ∀ t ∈ (tokens.take q).drop p, t.isFiller = true

/-- **A level of the parser advances**: wherever it starts, it stops. -/
def Advances (read : (ts : List Token) → Reading ts) : Prop :=
  ∀ (tokens : List Token) (p : Nat), p ≤ tokens.length → ∃ q, (read (tokens.drop p)).StopsAt q

/-- The place after the tokens that were read. -/
theorem Reading.stopsAt_of_append {r : Reading (tokens.drop p)} (hp : p ≤ tokens.length)
    (hrest : r.rest = rest) (hused : tokens.drop p = used ++ rest)
    (hfiller : r.expr? = none → ∀ t ∈ used, t.isFiller = true) : r.StopsAt (p + used.length) := by
  have hlength : tokens.length - p = used.length + rest.length := by
    rw [← List.length_drop, hused, List.length_append]
  have hafter : tokens.drop (p + used.length) = rest := by
    rw [← List.drop_drop, hused, List.drop_left]
  have hbetween : (tokens.take (p + used.length)).drop p = used := by
    rw [List.drop_take, Nat.add_sub_cancel_left, hused, List.take_left]
  constructor
  · rw [hrest, hafter]
  · exact Nat.le_add_right p used.length
  · omega
  · intro e he
    obtain ⟨shorter, -⟩ := Finds.exists_eq ⟨he, hrest⟩
    rw [List.length_drop] at shorter
    omega
  · rw [hbetween]
    exact hfiller

/-- **Who keeps the leaves stops somewhere**: both halves of the invariant tell which tokens were read. -/
theorem Reading.KeepsLeaves.exists_stopsAt {r : Reading (tokens.drop p)} (hr : r.KeepsLeaves)
    (hp : p ≤ tokens.length) : ∃ q, r.StopsAt q := by
  cases he : r.expr? with
  | some e =>
    obtain ⟨used, hused, -⟩ := hr.1 e r.rest ⟨he, rfl⟩
    refine ⟨p + used.length, stopsAt_of_append hp rfl hused fun hnone => ?_⟩
    exact absurd (he.symm.trans hnone) (Option.some_ne_none e)
  | none =>
    obtain ⟨used, hused, hfiller⟩ := hr.2 r.rest ⟨he, rfl⟩
    exact ⟨p + used.length, stopsAt_of_append hp rfl hused fun _ => hfiller⟩

theorem advances_of_keepsLeaves {read : (ts : List Token) → Reading ts} (h : ∀ ts, (read ts).KeepsLeaves) :
    Advances read :=
  fun tokens p hp => (h (tokens.drop p)).exists_stopsAt hp

/-! ### Rounds of a loop -/

/-- **Where a loop stands after a round.** -/
inductive Round
  /-- It goes round again, with this operand and these tokens. -/
  | goesOn (e : Expr) (rest : List Token)
  /-- It ends, with this operand and these tokens. -/
  | ends (e : Expr) (rest : List Token)

/-- The round in which an operand is looked for that `op` joins to the one at hand. -/
def Round.ofReading (op : Expr → Expr → Expr) (left : Expr) : Reading ts → Round
  | .found right rest _ => goesOn (op left right) rest
  | .missing rest _ => ends left rest

/-- **A round of a chain of `OR`.** -/
def orRound (left : Expr) : List Token → Round
  | .or :: ts => .ofReading .or left (andChain ts)
  | ts => .ends left ts

/-- **A round of a chain of `AND`.** Where operands stand side by side, it reads nothing but the operand. -/
def andRound (left : Expr) : List Token → Round
  | [] => .ends left []
  | .and :: ts => .ofReading .and left (notOperand ts)
  | t :: ts =>
    if t.startsAtom then .ofReading .and left (notOperand (t :: ts)) else .ends left (t :: ts)

/-- **A loop ends** after it has gone round again `n` times. -/
inductive EndsAfter (round : Expr → List Token → Round) :
    Nat → Expr → List Token → Expr → List Token → Prop
  /-- This round is the last one. -/
  | ends {e g : Expr} {ts last : List Token} : round e ts = .ends g last → EndsAfter round 0 e ts g last
  /-- There are rounds to come. -/
  | goesOn {n : Nat} {e f g : Expr} {ts rest last : List Token} : round e ts = .goesOn f rest →
      EndsAfter round n f rest g last → EndsAfter round (n + 1) e ts g last

/-- A round that leaves fewer tokens, or ends and leaves no more than it was given. -/
def Round.Consumes (ts : List Token) : Round → Prop
  | goesOn _ rest => rest.length < ts.length
  | ends _ rest => rest.length ≤ ts.length

/-- **A loop whose rounds consume tokens ends**, after no more rounds than tokens. -/
theorem exists_endsAfter {round : Expr → List Token → Round} (h : ∀ e ts, (round e ts).Consumes ts)
    (e : Expr) (ts : List Token) : ∃ n g last, EndsAfter round n e ts g last ∧ n + last.length ≤ ts.length := by
  induction hlen : ts.length using Nat.strongRecOn generalizing e ts with
  | ind m ih =>
    have hconsumes := h e ts
    cases hround : round e ts with
    | ends g last =>
      rw [hround, Round.Consumes, hlen] at hconsumes
      exact ⟨0, g, last, .ends hround, by omega⟩
    | goesOn f rest =>
      rw [hround, Round.Consumes, hlen] at hconsumes
      obtain ⟨n, g, last, hends, hn⟩ := ih rest.length hconsumes f rest rfl
      exact ⟨n + 1, g, last, .goesOn hround hends, by omega⟩

/-! ### The loops of the parser -/

/-- A round consumes tokens because an operand does. -/
theorem Round.consumes_ofReading (op : Expr → Expr → Expr) (left : Expr) (r : Reading ts)
    (h : ts.length ≤ us.length) : (ofReading op left r).Consumes us := by
  cases r with
  | found right rest shorter => exact Nat.lt_of_lt_of_le shorter h
  | missing rest noLonger => exact Nat.le_trans noLonger h

theorem consumes_orRound (e : Expr) (ts : List Token) : (orRound e ts).Consumes ts := by
  unfold orRound
  split
  · exact Round.consumes_ofReading _ _ _ (by simp)
  · exact Nat.le_refl _

theorem consumes_andRound (e : Expr) (ts : List Token) : (andRound e ts).Consumes ts := by
  unfold andRound
  split
  · exact Nat.le_refl _
  · exact Round.consumes_ofReading _ _ _ (by simp)
  split
  · exact Round.consumes_ofReading _ _ _ (Nat.le_refl _)
  · exact Nat.le_refl _

/-- An operand that was found is joined, and the loop goes on. -/
theorem Round.finds_of_ofReading {op : Expr → Expr → Expr} {r : Reading ts}
    (h : ofReading op e r = .goesOn g rest) : ∃ f, r.Finds f rest ∧ g = op e f := by
  cases r with
  | found f us shorter =>
    obtain ⟨rfl, rfl⟩ := Round.goesOn.inj h
    exact ⟨f, ⟨rfl, rfl⟩, rfl⟩
  | missing us noLonger => cases h

/-- Where none was found, the loop ends with what it has. -/
theorem Round.misses_of_ofReading {op : Expr → Expr → Expr} {r : Reading ts}
    (h : ofReading op e r = .ends g rest) : r.Misses rest ∧ g = e := by
  cases r with
  | found f us shorter => cases h
  | missing us noLonger =>
    obtain ⟨rfl, rfl⟩ := Round.ends.inj h
    exact ⟨⟨rfl, rfl⟩, rfl⟩

/-- **A function does what the rounds of a loop do**: what its last round does, and whatever is still to come
after a round that is not the last. -/
structure GoesRound (tail : Expr → (ts : List Token) → Extension ts) (round : Expr → List Token → Round) :
    Prop where
  /-- It ends with the last round. -/
  ends : ∀ {e ts g last}, round e ts = .ends g last → (tail e ts).Ends g last
  /-- It goes on with the others. -/
  goesOn : ∀ {e ts f rest g last}, round e ts = .goesOn f rest → (tail f rest).Ends g last →
    (tail e ts).Ends g last

theorem goesRound_orTail : GoesRound orTail orRound where
  ends := by
    intro e ts g last h
    unfold orRound at h
    split at h
    · obtain ⟨hmiss, rfl⟩ := Round.misses_of_ofReading h
      exact ends_orTail_or_missing hmiss
    · next hor =>
      obtain ⟨rfl, rfl⟩ := Round.ends.inj h
      exact ends_orTail fun hhead => by
        obtain ⟨us, rfl⟩ := List.head?_eq_some_iff.mp hhead
        exact hor us rfl
  goesOn := by
    intro e ts g rest last' last h htail
    unfold orRound at h
    split at h
    · obtain ⟨f, hfind, rfl⟩ := Round.finds_of_ofReading h
      exact ends_orTail_or hfind htail
    · cases h

theorem goesRound_andTail : GoesRound andTail andRound where
  ends := by
    intro e ts g last h
    unfold andRound at h
    split at h
    · obtain ⟨rfl, rfl⟩ := Round.ends.inj h
      exact ends_andTail (by simp)
    · obtain ⟨hmiss, rfl⟩ := Round.misses_of_ofReading h
      exact ends_andTail_and_missing hmiss
    · next t us hand =>
      split at h
      · next hstart =>
        obtain ⟨hmiss, rfl⟩ := Round.misses_of_ofReading h
        exact ends_andTail_beside_missing hstart hmiss
      · next hstart =>
        obtain ⟨rfl, rfl⟩ := Round.ends.inj h
        exact ends_andTail (by simpa using And.intro hand hstart)
  goesOn := by
    intro e ts g rest last' last h htail
    unfold andRound at h
    split at h
    · cases h
    · obtain ⟨f, hfind, rfl⟩ := Round.finds_of_ofReading h
      exact ends_andTail_and hfind htail
    split at h
    · next hstart =>
      obtain ⟨f, hfind, rfl⟩ := Round.finds_of_ofReading h
      exact ends_andTail_beside hstart hfind htail
    · cases h

variable {tail : Expr → (ts : List Token) → Extension ts} {round : Expr → List Token → Round}

/-- What a loop ends with is what the function returns. -/
theorem EndsAfter.ends_tail (h : EndsAfter round n e ts g last) (hround : GoesRound tail round) :
    (tail e ts).Ends g last := by
  induction h with
  | ends h => exact hround.ends h
  | goesOn h _ ih => exact hround.goesOn h ih

/-- **The loop comes to what the function returns**, and each round but the last takes a token of its own. -/
theorem GoesRound.exists_endsAfter (hround : GoesRound tail round) (h : ∀ e ts, (round e ts).Consumes ts)
    (e : Expr) (ts : List Token) : ∃ n, n + (tail e ts).rest.length ≤ ts.length ∧
      EndsAfter round n e ts (tail e ts).expr (tail e ts).rest := by
  obtain ⟨n, g, last, hends, hn⟩ := Parse.exists_endsAfter h e ts
  obtain ⟨rfl, rfl⟩ := hends.ends_tail hround
  exact ⟨n, hn, hends⟩

/-- **The parser gets on.** Each of its levels, wherever it starts, stops at a place that is not before the
start and not beyond the end; it has read a token if it found an operand, and nothing but fillers if it did
not. So both loops end: there are no more rounds than tokens that are read. -/
theorem advances_and_endsAfter :
    (Advances orChain ∧ Advances andChain ∧ Advances notOperand ∧ Advances atom) ∧
    (∀ e ts, ∃ n, n + (orTail e ts).rest.length ≤ ts.length ∧
      EndsAfter orRound n e ts (orTail e ts).expr (orTail e ts).rest) ∧
    ∀ e ts, ∃ n, n + (andTail e ts).rest.length ≤ ts.length ∧
      EndsAfter andRound n e ts (andTail e ts).expr (andTail e ts).rest := by
  obtain ⟨hor, -, hand, -, hnot, hatom⟩ := keepsLeaves_all
  refine ⟨⟨?_, ?_, ?_, ?_⟩, ?_, ?_⟩
  · exact advances_of_keepsLeaves hor
  · exact advances_of_keepsLeaves hand
  · exact advances_of_keepsLeaves hnot
  · exact advances_of_keepsLeaves hatom
  · exact goesRound_orTail.exists_endsAfter consumes_orRound
  · exact goesRound_andTail.exists_endsAfter consumes_andRound

end Parse

end NoteSearch
