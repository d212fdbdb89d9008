import NoteSearch.Query.Sketch

/-!
# Filter chips

Chips are the other way to say what is looked for: a row of filters, each for one tag, one folder or
the pinned state, each possibly excluded, and one operator that joins them all. A row of chips folds
from the left into an expression, so `[work, not archive]` under `AND` is
`tag:work AND NOT folder:archive`. Terms have no chip, and neither have expressions that mix the two
operators or nest to the right.

`NoteSearch.Chip.combine` and `NoteSearch.Chip.recover` are the two directions.
-/

namespace NoteSearch

/-- **The operator that joins a row of chips.** -/
inductive Junction
  /-- Every chip holds. -/
  | and
  /-- At least one chip holds. -/
  | or
  deriving DecidableEq, Repr, Inhabited

namespace Junction

/-- Two expressions joined by the operator. -/
def join : Junction → Expr → Expr → Expr
  | and => .and
  | or => .or

/-- The spelling of the operator. -/
def name : Junction → String
  | and => "and"
  | or => "or"

/-- The operator of a spelling. -/
def ofName? : String → Option Junction
  | "and" => some and
  | "or" => some or
  | _ => none

/-- The operator that a row of chips for an expression would have: that of the expression itself, and
`AND` for an expression without one. -/
def ofExpr : Expr → Junction
  | .or _ _ => or
  | _ => and

end Junction

/-- What a chip filters by. -/
inductive ChipKind
  /-- A tag of the given name. -/
  | tag
  /-- A folder of the given name. -/
  | folder
  /-- The pinned state. -/
  | pinned
  deriving DecidableEq, Repr, Inhabited

namespace ChipKind

/-- The spelling of the kind. -/
def name : ChipKind → String
  | tag => "tag"
  | folder => "folder"
  | pinned => "pinned"

end ChipKind

/-- **A filter chip.** The value of a tag or folder chip is a name, which must not be empty
(`NoteSearch.Chip.make`); that of a pinned chip is `true`, and anything else counts as `false`. -/
structure Chip where
  /-- What the chip filters by. -/
  kind : ChipKind
  /-- The name, or the pinned state. -/
  value : String
  /-- Whether the chip excludes what it describes. -/
  negated : Bool
  deriving DecidableEq, Repr, Inhabited

/-- **The reason why there is no such chip.** -/
inductive ChipFault
  /-- A chip of this kind needs a name. -/
  | unnamed (kind : ChipKind)
  deriving DecidableEq, Repr

namespace ChipFault

/-- What the user is told. -/
def message : ChipFault → String
  | unnamed kind => kind.name ++ " chip needs a name"

end ChipFault

namespace Chip

/-- Whether a chip has the name that it needs. -/
def isNamed (c : Chip) : Bool :=
  c.kind = .pinned || c.value != ""

/-- **Making a chip**, which fails for a tag or folder chip without a name. -/
def make (kind : ChipKind) (value : String) (negated : Bool) : Except ChipFault Chip :=
  let chip : Chip := ⟨kind, value, negated⟩
  if chip.isNamed then .ok chip else .error (.unnamed kind)

/-- The chip for notes that are pinned, or are not. -/
def ofPinned (flag negated : Bool) : Chip :=
  ⟨.pinned, if flag then "true" else "false", negated⟩

/-- What a chip asks of a note, before it is negated. -/
def leaf (c : Chip) : Leaf :=
  match c.kind with
  | .tag => .tag c.value
  | .folder => .folder c.value
  | .pinned => .pinned (c.value = "true")

/-- **What a chip asks of a note.** -/
def expr (c : Chip) : Expr :=
  if c.negated then .not (.leaf c.leaf) else .leaf c.leaf

/-! ### From chips to an expression and back -/

/-- **The expression of a row of chips**: a fold from the left. An empty row asks for nothing. -/
def combine (j : Junction) : List Chip → Option Expr
  | [] => none
  | c :: cs => some (cs.foldl (fun e c => j.join e c.expr) c.expr)

/-- The chip that asks for one leaf, possibly negated. Terms have none, and neither have empty
names. -/
def ofLeaf? (negated : Bool) : Leaf → Option Chip
  | .tag name => if name = "" then none else some ⟨.tag, name, negated⟩
  | .folder name => if name = "" then none else some ⟨.folder, name, negated⟩
  | .pinned flag => some (ofPinned flag negated)
  | .text _ => none

/-- The chip that asks for an expression, when a single chip does. -/
def ofExpr? : Expr → Option Chip
  | .leaf l => ofLeaf? false l
  | .not (.leaf l) => ofLeaf? true l
  | _ => none

/-- The row of chips joined by `j` that asks for an expression: the operands of its left spine, each
of which a single chip has to ask for. -/
def spine? (j : Junction) : Expr → Option (List Chip)
  | .and l r =>
    if j = .and then do return (← spine? j l) ++ [← ofExpr? r] else none
  | .or l r =>
    if j = .or then do return (← spine? j l) ++ [← ofExpr? r] else none
  | e => (ofExpr? e).map fun c => [c]

/-- **The row of chips that asks for an expression**, with its operator. No expression is asked for
by the empty row. -/
def recover : Option Expr → Option (List Chip × Junction)
  | none => some ([], .and)
  | some e => (spine? (.ofExpr e) e).map fun chips => (chips, .ofExpr e)

/-- The row of chips for a sketch: one that is given but not finished has none. -/
def recoverSketch : Sketch → Option (List Chip × Junction)
  | .gap => recover none
  | s => s.toExpr?.bind fun e => recover (some e)

end Chip

end NoteSearch
