import NoteSearch.Query.Chip
import NoteSearch.Query.Parse
import NoteSearch.Search.Read

/-!
# A search session

One user's search is in one of two modes. In text mode the query is typed, in visual mode it is a row
of chips; both inputs are kept, and switching carries one over to the other where it can be carried
over. Whatever changes the row of chips searches at once; typing and switching do not.

A session reads from a source, which counts as a database that may be out of order: every search makes
at most one read, and a failed read leaves its message in place of the results. A step that is refused
– a chip without a name, or a chip to remove that is not there – changes nothing and reads nothing.
-/

namespace NoteSearch

open Text

/-- **The two ways to say what is looked for.** -/
inductive Mode
  /-- A row of chips. -/
  | visual
  /-- A typed query. -/
  | text
  deriving DecidableEq, Repr, Inhabited

namespace Mode

/-- The spelling of a mode. -/
def name : Mode → String
  | visual => "visual"
  | text => "text"

end Mode

/-- **A read of the source.** -/
inductive ReadKind
  /-- All notes. -/
  | fetchAll
  /-- The notes that satisfy a predicate. -/
  | fetchMatching
  deriving DecidableEq, Repr, Inhabited

namespace ReadKind

/-- The spelling of a read. -/
def name : ReadKind → String
  | fetchAll => "fetch_all"
  | fetchMatching => "fetch_matching"

end ReadKind

/-- **Where a session reads from**: a database, in front of which every read may fail. -/
structure Source where
  /-- The database. -/
  database : Database
  /-- What every read fails with, while reads fail. -/
  failing : Option String := none
  deriving Repr, Inhabited

namespace Source

/-- **One read**: its answer, and that it has been made. A read that fails has been made as well. -/
def read (src : Source) (kind : ReadKind) (rows : Except DatabaseFault (List NoteView)) :
    Except DatabaseFault (List NoteView) × List ReadKind :=
  (match src.failing with
    | some message => .error (.reported message)
    | none => rows,
  [kind])

/-- Reading all notes. -/
def fetchAll (src : Source) : Except DatabaseFault (List NoteView) × List ReadKind :=
  src.read .fetchAll src.database.fetchAll

/-- Reading the notes that satisfy a predicate. -/
def fetchMatching (src : Source) (p : Predicate) :
    Except DatabaseFault (List NoteView) × List ReadKind :=
  src.read .fetchMatching (src.database.fetchMatching p)

/-- **Searching the source** for an expression; without one, all notes are read. -/
def search (src : Source) : Option Expr → Except DatabaseFault (List NoteView) × List ReadKind
  | none => src.fetchAll
  | some e => src.fetchMatching (.ofExpr e)

end Source

/-- **The state of a search session.** -/
structure Session where
  /-- The mode. -/
  mode : Mode := .visual
  /-- The typed query. -/
  query : String := ""
  /-- The row of chips. -/
  chips : List Chip := []
  /-- The operator that joins the chips. -/
  junction : Junction := .and
  /-- What the latest search found. -/
  results : List NoteView := []
  /-- What was wrong with the query, if anything. -/
  syntaxMessage : Option String := none
  /-- What was wrong with the source, if anything. -/
  sourceMessage : Option String := none
  deriving DecidableEq, Repr, Inhabited

/-- **The reason why a step is refused.** -/
inductive StepFault
  /-- There is no such chip to add. -/
  | chip (fault : ChipFault)
  /-- There is no chip at this place. -/
  | noChipAt (index : Int)
  deriving DecidableEq, Repr

namespace Session

/-- What the chips ask for. -/
def chipsExpr (s : Session) : Option Expr :=
  Chip.combine s.junction s.chips

/-- **What the session looks for** in its mode. -/
def expr (s : Session) : Option Expr :=
  match s.mode with
  | .text => Expr.ofText? s.query
  | .visual => s.chipsExpr

/-! ### Searching -/

/-- The session after a search that was answered without reading. -/
def idle (s : Session) (message : Option String) : Session :=
  { s with results := [], syntaxMessage := message, sourceMessage := none }

/-- The session after a read for an expression. -/
def receive (s : Session) : Except DatabaseFault (List NoteView) → Session
  | .ok notes => { s with results := notes, syntaxMessage := none, sourceMessage := none }
  | .error fault =>
    { s with results := [], syntaxMessage := none, sourceMessage := some fault.message }

/-- The session after the source was searched, and the reads that this took. -/
def consult (src : Source) (s : Session) (e : Option Expr) : Session × List ReadKind :=
  let (answer, reads) := src.search e
  (s.receive answer, reads)

/-- **Searching**: the session afterwards, and the reads that were made. A blank query finds nothing,
and so does one that cannot be read; neither needs the source. -/
def search (src : Source) (s : Session) : Session × List ReadKind :=
  match s.mode with
  | .visual => s.consult src s.chipsExpr
  | .text =>
    if isBlankText s.query then (s.idle none, [])
    else match Expr.ofText? s.query with
      | none => (s.idle (some SyntaxFault.message), [])
      | some e => s.consult src (some e)

/-! ### Switching modes -/

/-- **Switching to text mode**: the chips, if there are any, become the query. -/
def toText (s : Session) : Session :=
  { s with
    mode := .text
    query := match s.chipsExpr with
      | some e => e.text
      | none => s.query }

/-- **Switching to visual mode**: the query becomes the row of chips, where there is such a row. A
query that is not blank and cannot be read becomes the empty row. -/
def toVisual (s : Session) : Session :=
  match Chip.recover (Expr.ofText? s.query) with
  | some (chips, junction) =>
    if isBlankText s.query then { s with mode := .visual }
    else { s with mode := .visual, chips, junction }
  | none => { s with mode := .visual }

/-- Starting anew, in the same mode and with the same operator. -/
def clear (s : Session) : Session :=
  { s with chips := [], query := "", results := [], syntaxMessage := none, sourceMessage := none }

/-! ### Chips -/

/-- The place that an index stands for in a row of `length` chips; a negative index counts from the
end. -/
def place? (length : Nat) (index : Int) : Option Nat :=
  if 0 ≤ index then
    if index < length then some index.toNat else none
  else if -(length : Int) ≤ index then some (length - index.natAbs)
  else none

/-- The session without the chip at a place. -/
def dropChip (s : Session) (index : Int) : Except StepFault Session :=
  match place? s.chips.length index with
  | some i => .ok { s with chips := s.chips.eraseIdx i }
  | none => .error (.noChipAt index)

/-- The session with one more chip at the end of the row. -/
def pushChip (s : Session) (chip : Except ChipFault Chip) : Except StepFault Session :=
  match chip with
  | .ok c => .ok { s with chips := s.chips ++ [c] }
  | .error fault => .error (.chip fault)

/-! ### Steps -/

/-- **What a user does.** -/
inductive Step
  /-- Adding a chip, which is made from a kind, a value, and whether it excludes. -/
  | addChip (kind : ChipKind) (value : String) (negated : Bool)
  /-- Adding a chip for the pinned state. -/
  | addPinned (flag : Bool)
  /-- Removing the chip at a place. -/
  | removeChip (index : Int)
  /-- Joining the chips by another operator. -/
  | setJunction (junction : Junction)
  /-- Switching to text mode. -/
  | toText
  /-- Switching to visual mode. -/
  | toVisual
  /-- Starting anew. -/
  | clear
  /-- Entering a mode without carrying anything over. -/
  | setMode (mode : Mode)
  /-- Typing a query. -/
  | setQuery (query : String)
  /-- Searching. -/
  | search
  deriving DecidableEq, Repr, Inhabited

/-- **One step of a session**: the session afterwards and the reads that were made. -/
def step (src : Source) (s : Session) : Step → Except StepFault (Session × List ReadKind)
  | .addChip kind value negated =>
    (s.pushChip (Chip.make kind value negated)).map (search src)
  | .addPinned flag => (s.pushChip (.ok (Chip.ofPinned flag false))).map (search src)
  | .removeChip index => (s.dropChip index).map (search src)
  | .setJunction junction => .ok ({ s with junction }.search src)
  | .toText => .ok (s.toText, [])
  | .toVisual => .ok (s.toVisual, [])
  | .clear => .ok (s.clear, [])
  | .setMode mode => .ok ({ s with mode }, [])
  | .setQuery query => .ok ({ s with query }, [])
  | .search => .ok (s.search src)

/-- A session after a step that may be refused, and the reads that were made. -/
def afterStep (src : Source) (s : Session) (step : Step) : Session × List ReadKind :=
  match s.step src step with
  | .ok r => r
  | .error _ => (s, [])

end Session

end NoteSearch
