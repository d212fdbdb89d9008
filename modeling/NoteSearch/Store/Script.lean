import NoteSearch.Store.Edit

/-!
# Scripts

A script is a list of edits, which are made one after another. An edit that is refused changes nothing, and
the script goes on.
-/

namespace NoteSearch

/-- **An edit of a store.** -/
inductive Edit
  /-- A folder is added. -/
  | addFolder (name : String) (parent : Option Nat)
  /-- A tag is added. -/
  | addTag (name : String)
  /-- A note is added. -/
  | addNote (draft : NoteDraft)
  /-- A folder is moved. -/
  | moveFolder (id : Nat) (parent : Option Nat)
  /-- A note is changed. -/
  | updateNote (id : Nat) (change : NoteChange)
  /-- A row gets a new name. -/
  | rename (kind : RowKind) (id : Nat) (name : String)
  /-- A row is deleted. -/
  | delete (kind : RowKind) (id : Nat)
  deriving DecidableEq, Repr, Inhabited

namespace Store

/-- **Making an edit**: the store that it leads to, and the number of the row that it adds, if it adds one.
-/
def edit (s : Store) : Edit → Except EditFault (Store × Option Nat)
  | .addFolder name parent => (s.addFolder name parent).map fun (s', id) => (s', some id)
  | .addTag name => .ok ((s.addTag name).1, some (s.addTag name).2)
  | .addNote draft => (s.addNote draft).map fun (s', id) => (s', some id)
  | .moveFolder id parent => (s.moveFolder id parent).map fun s' => (s', none)
  | .updateNote id change => (s.updateNote id change).map fun s' => (s', none)
  | .rename kind id name => .ok (s.rename kind id name, none)
  | .delete kind id => .ok (s.delete kind id, none)

/-- The store after an edit, whether or not it is refused. -/
def afterEdit (s : Store) (e : Edit) : Store :=
  match s.edit e with
  | .ok (s', _) => s'
  | .error _ => s

/-- **The store after a script.** -/
def run (s : Store) (script : List Edit) : Store :=
  script.foldl afterEdit s

end Store

end NoteSearch
