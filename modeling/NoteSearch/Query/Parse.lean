import NoteSearch.Query.Expr
import NoteSearch.Query.Scan

/-!
# Parsing a query

From loosest to tightest the operators are `OR`, `AND`, `NOT`, and two operands side by side are
joined by `AND`. Parsing is forgiving. An operand that cannot be read is left out, and what was built
before it is kept; a group need not be closed; tokens after a complete expression are ignored. Only
where nothing at all could be built is there no expression.

There is one function per level of precedence. Each is given the tokens that are left and returns the
tokens that are left after it, whether it found an operand or not: where an operand is missing, the
`NOT` and the parentheses that were read in search of it stay read. What is returned is never longer
than what was given, and is shorter when an operand was found. `NoteSearch.Parse.Reading` carries that
fact, and the parser ends because of it.

Groups and negations may be nested without end. A parser that runs on a stack of limited height gives up at
some depth; here there is no such depth.
-/

namespace NoteSearch

namespace Parse

/-- **The outcome of looking for an operand** at the tokens `ts`. -/
inductive Reading (ts : List Token)
  /-- An operand was read, and at least one token with it. -/
  | found (e : Expr) (rest : List Token) (shorter : rest.length < ts.length)
  /-- There is no operand. -/
  | missing (rest : List Token) (noLonger : rest.length ≤ ts.length)

/-- **The outcome of extending an operand** by the tokens `ts`: a chain of operators is as long as it
is, so this never fails. -/
structure Extension (ts : List Token) where
  /-- The operand with everything that was joined to it. -/
  expr : Expr
  /-- The tokens that are left. -/
  rest : List Token
  /-- No token is invented. -/
  noLonger : rest.length ≤ ts.length

/-- The tokens after a closing parenthesis, if there is one. -/
def dropClose : List Token → List Token
  | .closeParen :: ts => ts
  | ts => ts

theorem dropClose_length_le (ts : List Token) : (dropClose ts).length ≤ ts.length := by
  unfold dropClose
  split <;> simp

mutual

/-- A chain of operands joined by `OR`. -/
def orChain (ts : List Token) : Reading ts :=
  match andChain ts with
  | .missing rest h => .missing rest h
  | .found e rest h =>
    let ext := orTail e rest
    .found ext.expr ext.rest (Nat.lt_of_le_of_lt ext.noLonger h)
termination_by (ts.length, 3)

/-- What an operand grows into, when `OR` and further operands follow. -/
def orTail (left : Expr) (ts : List Token) : Extension ts :=
  match ts with
  | .or :: ts =>
    match andChain ts with
    | .missing rest h => ⟨left, rest, Nat.le_succ_of_le h⟩
    | .found right rest h =>
      let ext := orTail (.or left right) rest
      ⟨ext.expr, ext.rest, Nat.le_succ_of_le (Nat.le_of_lt (Nat.lt_of_le_of_lt ext.noLonger h))⟩
  | ts => ⟨left, ts, Nat.le_refl _⟩
termination_by (ts.length, 3)

/-- A chain of operands joined by `AND`, or standing side by side. -/
def andChain (ts : List Token) : Reading ts :=
  match notOperand ts with
  | .missing rest h => .missing rest h
  | .found e rest h =>
    let ext := andTail e rest
    .found ext.expr ext.rest (Nat.lt_of_le_of_lt ext.noLonger h)
termination_by (ts.length, 2)

/-- What an operand grows into, when `AND` or further operands follow. -/
def andTail (left : Expr) (ts : List Token) : Extension ts :=
  match ts with
  | [] => ⟨left, [], Nat.le_refl _⟩
  | .and :: ts =>
    match notOperand ts with
    | .missing rest h => ⟨left, rest, Nat.le_succ_of_le h⟩
    | .found right rest h =>
      let ext := andTail (.and left right) rest
      ⟨ext.expr, ext.rest, Nat.le_succ_of_le (Nat.le_of_lt (Nat.lt_of_le_of_lt ext.noLonger h))⟩
  | t :: ts =>
    if t.startsAtom then
      match notOperand (t :: ts) with
      | .missing rest h => ⟨left, rest, h⟩
      | .found right rest h =>
        let ext := andTail (.and left right) rest
        ⟨ext.expr, ext.rest, Nat.le_of_lt (Nat.lt_of_le_of_lt ext.noLonger h)⟩
    else ⟨left, t :: ts, Nat.le_refl _⟩
termination_by (ts.length, 2)

/-- An operand with at most one `NOT` before it. -/
def notOperand (ts : List Token) : Reading ts :=
  match ts with
  | .not :: ts =>
    match atom ts with
    | .missing rest h => .missing rest (Nat.le_succ_of_le h)
    | .found e rest h => .found (.not e) rest (Nat.lt_succ_of_lt h)
  | ts => atom ts
termination_by (ts.length, 1)

/-- A leaf, or a group in parentheses. -/
def atom (ts : List Token) : Reading ts :=
  match ts with
  | .leaf l :: ts => .found (.leaf l) ts (Nat.lt_succ_self _)
  | .openParen :: ts =>
    match orChain ts with
    | .missing rest h =>
      .missing (dropClose rest) (Nat.le_succ_of_le (Nat.le_trans (dropClose_length_le rest) h))
    | .found e rest h =>
      .found e (dropClose rest)
        (Nat.lt_succ_of_lt (Nat.lt_of_le_of_lt (dropClose_length_le rest) h))
  | ts => .missing ts (Nat.le_refl _)
termination_by (ts.length, 0)

end

namespace Reading

variable {ts : List Token}

/-- The operand that was found, if any. -/
def expr? : Reading ts → Option Expr
  | found e _ _ => some e
  | missing _ _ => none

/-- The tokens that are left. -/
def rest : Reading ts → List Token
  | found _ rest _ => rest
  | missing rest _ => rest

end Reading

end Parse

/-! ### Reading a query -/

namespace Expr

/-- **The expression that a sequence of tokens spells**, if it spells any. -/
def ofTokens? (ts : List Token) : Option Expr :=
  (Parse.orChain ts).expr?

/-- The expression that a text spells, if it spells any. -/
def ofText? (query : String) : Option Expr :=
  ofTokens? (tokens query)

end Expr

/-- **A text that is no query**: it is not blank, and spells no expression. -/
structure SyntaxFault where
  /-- The text. -/
  query : String
  deriving DecidableEq, Repr

namespace SyntaxFault

/-- What the user is told. -/
def message : String :=
  "Invalid search syntax"

end SyntaxFault

/-- **Reading what a user typed**: a blank text asks for nothing in particular, and is no expression;
any other text has to spell one. -/
def Expr.read (query : String) : Except SyntaxFault (Option Expr) :=
  if Text.isBlankText query then .ok none
  else match Expr.ofText? query with
    | some e => .ok (some e)
    | none => .error ⟨query⟩

end NoteSearch
