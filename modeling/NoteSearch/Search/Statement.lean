import NoteSearch.Search.Condition

/-!
# How large a condition may be

The database engine is given a condition as text, in a statement that asks for the notes outside the trash,
and reads it twice over. Reading puts what is not yet understood on a stack of limited height
(`NoteSearch.Condition.Load`), and what has been understood becomes a tree of limited height
(`NoteSearch.Condition.heightOn`). A condition that is too large in either way is refused before any row is
tested.

In the text, operands of one operator stand in a chain, however they were nested. An `OR` in a chain of
`AND` stands in brackets, and so does everything but a leaf behind a `NOT`.

The engine also limits the number of values that are bound in a statement. A chain is a tree as high as it is
long, and so a condition with many values is mostly refused for its height; yet one that is nested evenly has
room for more of them. Statements are taken to have no more values than the engine allows, and that number is
no part of the verdict.
-/

namespace NoteSearch

namespace Condition

/-- What an operand belongs to. -/
inductive Joint
  /-- A chain of operands that all have to hold. -/
  | and
  /-- A chain of operands of which one has to hold. -/
  | or
  /-- A negation. -/
  | not
  deriving DecidableEq, Repr

/-! ### The stack -/

/-- **How high the stack gets** while a chain is read: over its first operand, and over each later one, on
top of the chain before it and an operator. -/
structure Load where
  /-- The height over the first operand. -/
  head : Nat
  /-- The greatest height over a later operand; zero if there is none. -/
  later : Nat := 0
  deriving DecidableEq, Repr

namespace Load

/-- The height over the whole chain. -/
def top (l : Load) : Nat :=
  max l.head (l.later + 2)

/-- A chain that goes on with another one. -/
def append (l r : Load) : Load :=
  ⟨l.head, max l.later (max r.head r.later)⟩

/-- A chain in brackets, as one operand. -/
def bracketed (l : Load) : Load :=
  ⟨l.top + 1, 0⟩

end Load

/-- The load of a comparison of a column with a number. -/
def comparisonLoad : Load := ⟨3, 0⟩

/-- The load of a pattern that a column is held against, in its brackets. -/
def patternLoad : Load := ⟨10, 0⟩

/-- The load of a question to another table, in its brackets. -/
def lookupLoad : Load := ⟨17, 0⟩

/-- The load of a chain of `OR` that is an operand. -/
def orLoad (j : Joint) (chain : Load) : Load :=
  match j with
  | .or => chain
  | _ => chain.bracketed

/-- The load of a chain of `AND` that is an operand. -/
def andLoad (j : Joint) (chain : Load) : Load :=
  match j with
  | .and => chain
  | .or => ⟨chain.top, 0⟩
  | .not => chain.bracketed

/-- The load of a negation that is an operand. -/
def notLoad (j : Joint) (inner : Load) : Load :=
  match j with
  | .not => Load.bracketed ⟨inner.top + 1, 0⟩
  | _ => ⟨inner.top + 1, 0⟩

/-- **The load of a condition** that is an operand. -/
def load (j : Joint) : Condition → Load
  | constant _ => comparisonLoad
  | carries _ => lookupLoad
  | filedIn _ => lookupLoad
  | mentions _ => orLoad j (patternLoad.append patternLoad)
  | pinnedIs _ => comparisonLoad
  | and l r => andLoad j ((l.load .and).append (r.load .and))
  | or l r => orLoad j ((l.load .or).append (r.load .or))
  | not c => notLoad j (c.load .not)

/-- What is on the stack before the first condition: the bottom and the parts of the statement up to it. -/
def stackBase : Nat := 6

/-- The greatest height of the stack. -/
def maxStack : Nat := 100

/-- **The height of the stack** while the statement is read that asks for the notes outside the trash for
which a condition holds. -/
def stackHeight (c : Condition) : Nat :=
  stackBase + (comparisonLoad.append (c.load .and)).top

/-! ### The tree -/

/-- The height of a comparison. -/
def comparisonHeight : Nat := 3

/-- The height of a pattern that a column is held against. -/
def patternHeight : Nat := 5

/-- The height of a question to another table. -/
def lookupHeight : Nat := 6

/-- The height of a chain with one more operand of a height. -/
def addOperand (height : Nat) : Option Nat → Nat
  | none => height
  | some chain => max chain height + 1

/-- **The height of a chain after the operands of a condition**; there is no chain before the first operand.
-/
def heightOn (j : Joint) (chain : Option Nat) : Condition → Nat
  | constant _ => addOperand comparisonHeight chain
  | carries _ => addOperand lookupHeight chain
  | filedIn _ => addOperand lookupHeight chain
  | mentions _ =>
    if j = .or then addOperand patternHeight (some (addOperand patternHeight chain))
    else addOperand (patternHeight + 1) chain
  | pinnedIs _ => addOperand comparisonHeight chain
  | and l r =>
    if j = .and then r.heightOn .and (some (l.heightOn .and chain))
    else addOperand (r.heightOn .and (some (l.heightOn .and none))) chain
  | or l r =>
    if j = .or then r.heightOn .or (some (l.heightOn .or chain))
    else addOperand (r.heightOn .or (some (l.heightOn .or none))) chain
  | not c => addOperand (c.heightOn .not none + 1) chain

/-- The height of the tallest condition inside a question to another table. A tag is linked by way of one
table more than a folder. -/
def innerHeight : Condition → Nat
  | carries _ => 6
  | filedIn _ => 5
  | and l r => max l.innerHeight r.innerHeight
  | or l r => max l.innerHeight r.innerHeight
  | not c => c.innerHeight
  | _ => 0

/-- The greatest height of a tree. -/
def maxHeight : Nat := 1000

/-- **The height of the tree**: that of the statement's own condition and, on top of it, that of the tallest
condition inside. -/
def treeHeight (c : Condition) : Nat :=
  c.heightOn .and (some comparisonHeight) + c.innerHeight

/-! ### The verdict -/

/-- **Whether the engine takes a condition**, whose values are not too many to be bound. -/
def accept (c : Condition) : Except EngineFault Unit :=
  if maxStack < c.stackHeight then .error .stackOverflow
  else if maxHeight < c.treeHeight then .error .treeTooHigh
  else .ok ()

end Condition

end NoteSearch
