import NoteSearch.Proofs.Query.Lockstep

/-!
# Punctuation that makes no difference

Three things may be written or left out. Groups that are still open at the end may be closed there. A closing
parenthesis that closes nothing may be followed by anything, since nothing after it is read
(`NoteSearch.ofTokens?_unbalanced`). And between an operand and an operand that has no `NOT`, an `AND` may be
written (`NoteSearch.ofTokens?_beside`). All this holds of any tokens, whether they spell an expression or not.

Each is a relation between two runs of the parser that they cannot leave. What makes the second one work is
that groups are not the same as parentheses: after an operand that is given up, a group ends without its
closing parenthesis. So there are never more groups open than parentheses, and where as many have been closed
as were opened, no group is left that could read another one.
-/

namespace NoteSearch

open Parse

variable {d : Nat} {ts us xs zs : List Token} {p y : Token}

/-! ### Parentheses without a partner -/

/-- In the second run, closing parentheses follow. -/
def Closed : Pairing := fun _ ts us => ∃ n, us = ts ++ List.replicate n .closeParen

theorem atStop_replicate (n : Nat) : AtStop (List.replicate n .closeParen) := by
  cases n with
  | zero => exact Or.inl rfl
  | succ n => exact Or.inr ⟨_, List.replicate_succ⟩

theorem lockstep_closed : Lockstep id Closed := by
  refine ⟨fun {d ts us} h => ?_, id⟩
  obtain ⟨n, rfl⟩ := h
  cases ts with
  | nil =>
    -- a group that is open here reads one of the parentheses, where there is one
    refine .stop (atStop_replicate n) fun _ _ => ⟨n - 1, ?_⟩
    cases n <;> rfl
  | cons t ts => exact .of_forall_same t fun _ => ⟨n, rfl⟩

/-- In the second run, a closing parenthesis and anything else follow; and the tokens that are left before it
close at least as many groups as they open and as are open already. -/
def CutOff (zs : List Token) : Pairing := fun d ts us =>
  us = ts ++ .closeParen :: zs ∧ ts.count .openParen + d ≤ ts.count .closeParen

theorem lockstep_cutOff (zs : List Token) : Lockstep id (CutOff zs) := by
  refine ⟨fun {d ts us} h => ?_, fun {d ts us} h => ⟨h.1, by have := h.2; omega⟩⟩
  obtain ⟨rfl, hcount⟩ := h
  cases ts with
  | nil =>
    -- every group has been left, so nothing reads the parenthesis
    refine .stop (Or.inr ⟨zs, rfl⟩) fun n hn => ?_
    simp at hcount
    omega
  | cons t ts =>
    cases t with
    | leaf l => exact .leaf (Or.inl ⟨rfl, by simpa using hcount⟩)
    | and => exact .and ⟨rfl, by simpa using hcount⟩
    | or => exact .or ⟨rfl, by simpa using hcount⟩
    | not => exact .not ⟨rfl, by simpa using hcount⟩
    | openParen =>
      refine .openParen ⟨rfl, ?_⟩
      simp at hcount
      omega
    | closeParen =>
      refine .closeParen fun n hn => Or.inl ⟨rfl, ?_⟩
      simp at hcount
      omega

/-- **Parentheses need not be balanced.** Closing parentheses at the end make no difference, however many
there are. And behind tokens that close at least as many groups as they open, a further closing parenthesis
hides everything that follows. -/
theorem ofTokens?_unbalanced :
    (∀ ts n, Expr.ofTokens? (ts ++ List.replicate n .closeParen) = Expr.ofTokens? ts) ∧
      ∀ ts, ts.count .openParen ≤ ts.count .closeParen →
        ∀ zs, Expr.ofTokens? (ts ++ .closeParen :: zs) = Expr.ofTokens? ts := by
  refine ⟨fun ts n => ?_, fun ts hcount zs => ?_⟩
  · exact lockstep_closed.ofTokens?_eq ⟨n, rfl⟩
  · exact (lockstep_cutOff zs).ofTokens?_eq ⟨rfl, hcount⟩

/-- A group that is left where an operand is missing, so that its closing parenthesis, behind the next leaf,
closes nothing: `(a OR AND b) ) c`. -/
theorem ofTokens?_unbalanced_leftGroup :
    let a := Leaf.text "a"; let b := Leaf.text "b"
    let ts : List Token := [.openParen, .leaf a, .or, .and, .leaf b, .closeParen]
    let zs : List Token := [.leaf (.text "c")]
    ts.count .openParen ≤ ts.count .closeParen ∧
      Expr.ofTokens? (ts ++ .closeParen :: zs) = Expr.ofTokens? ts ∧
      Expr.ofTokens? ts = some (.and (.leaf a) (.leaf b)) := by
  intro a b ts zs
  have hcount : ts.count .openParen ≤ ts.count .closeParen := by decide
  have hread : Expr.ofTokens? ts = some (.and (.leaf a) (.leaf b)) := by cbv
  exact ⟨hcount, ofTokens?_unbalanced.2 ts hcount zs, hread⟩

/-! ### Operands side by side -/

/-- The two runs read the same tokens, but for an `AND` between `p` and `y` that the first does without. -/
def Linked (p y : Token) : Pairing := fun _ ts us =>
  ts = us ∨ ∃ xs zs, ts = xs ++ p :: y :: zs ∧ us = xs ++ p :: .and :: y :: zs

/-- Behind `p` an operand has ended, or is missing for good, and `y` starts one. So wherever the first run goes
on at `y`, it does so from an operand, and that is where the second run reads the `AND`. -/
theorem lockstep_linked (hp : (∃ l, p = .leaf l) ∨ p = .closeParen) (hy : y.startsAtom = true) :
    Lockstep id (Linked p y) := by
  refine ⟨fun {d ts us} h => ?_, id⟩
  have hlink (d : Nat) (zs : List Token) : Between (Linked p y) d (y :: zs) (.and :: y :: zs) :=
    Or.inr ⟨y :: zs, rfl, Or.inl rfl, y, rfl, hy⟩
  rcases h with rfl | ⟨xs, zs, rfl, rfl⟩
  · cases ts with
    | nil => exact .stop (Or.inl rfl) fun _ _ => Or.inl rfl
    | cons t ts => exact .of_forall_same t fun _ => Or.inl rfl
  · cases xs with
    | nil =>
      rcases hp with ⟨l, rfl⟩ | rfl
      · exact .leaf (hlink d zs)
      · exact .closeParen fun n _ => hlink n zs
    | cons x xs => exact .of_forall_same x fun _ => Or.inr ⟨xs, zs, rfl, rfl⟩

/-- **Standing side by side is an `AND`**: between a leaf or a closing parenthesis and a leaf or an opening
one, an `AND` makes no difference, whatever stands before and after them. -/
theorem ofTokens?_beside (hp : (∃ l, p = .leaf l) ∨ p = .closeParen)
    (hy : (∃ l, y = .leaf l) ∨ y = .openParen) (xs zs : List Token) :
    Expr.ofTokens? (xs ++ p :: y :: zs) = Expr.ofTokens? (xs ++ p :: .and :: y :: zs) := by
  have hstart : y.startsAtom = true := by
    rcases hy with ⟨l, rfl⟩ | rfl <;> rfl
  have hlock : Lockstep id (Linked p y) := lockstep_linked hp hstart
  exact (hlock.ofTokens?_eq (Or.inr ⟨xs, zs, rfl, rfl⟩)).symm

/-- Behind a group with nothing in it, in a group that is left because of it: `NOT (a OR () AND b) c`. -/
theorem ofTokens?_beside_emptyGroup :
    let a := Leaf.text "a"; let b := Leaf.text "b"; let c := Leaf.text "c"
    let xs : List Token := [.not, .openParen, .leaf a, .or, .openParen]
    let zs : List Token := [.closeParen, .leaf c]
    ((∃ l, Token.closeParen = .leaf l) ∨ Token.closeParen = .closeParen) ∧
      ((∃ l, Token.leaf b = .leaf l) ∨ Token.leaf b = .openParen) ∧
      Expr.ofTokens? (xs ++ .closeParen :: .leaf b :: zs) =
        Expr.ofTokens? (xs ++ .closeParen :: .and :: .leaf b :: zs) ∧
      Expr.ofTokens? (xs ++ .closeParen :: .leaf b :: zs) = some (.and (.not (.leaf a)) (.leaf b)) := by
  intro a b c xs zs
  have hp : (∃ l, Token.closeParen = .leaf l) ∨ Token.closeParen = .closeParen := Or.inr rfl
  have hy : (∃ l, Token.leaf b = .leaf l) ∨ Token.leaf b = .openParen := Or.inl ⟨b, rfl⟩
  have hread : Expr.ofTokens? (xs ++ .closeParen :: .leaf b :: zs) =
      some (.and (.not (.leaf a)) (.leaf b)) := by cbv
  exact ⟨hp, hy, ofTokens?_beside hp hy xs zs, hread⟩

end NoteSearch
