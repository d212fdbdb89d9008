import NoteSearch.Store.Basic

/-!
# Changing a store

A row is added, changed or deleted by an edit, and an edit happens as a whole or not at all. It is
refused when a row would then refer to a row that is not there, or when a note would carry a tag twice.
Deleting is not refused: what refers to a deleted row goes with it or lets go of it. A tag and a note take
their links along; a folder takes the folders in it along, and the notes filed there lose their folder. The
engine goes down into a folder step by step, and gives up after a thousand steps; folders are taken to be
nested less deep than that.

A new row is numbered one above the largest number of its table, so the number of a deleted last row is
given out again.
-/

namespace NoteSearch

/-- **The reason why an edit is refused.** -/
inductive EditFault
  /-- The row would refer to a folder that is not there. -/
  | unknownFolder (id : Nat)
  /-- The note would carry a tag that is not there. -/
  | unknownTag (id : Nat)
  /-- The note would carry a tag twice. -/
  | repeatedTag (id : Nat)
  deriving DecidableEq, Repr

/-- **What a new note is made from.** -/
structure NoteDraft where
  /-- The title. -/
  title : String := ""
  /-- The text. -/
  body : String := ""
  /-- The folder. -/
  folder : Option Nat := none
  /-- Whether the note is pinned. -/
  pinned : Bool := false
  /-- The tags. -/
  tags : List Nat := []
  /-- When the note was made. -/
  created : Moment := .epoch
  /-- When the note was last changed. -/
  modified : Moment := .epoch
  /-- When the note was put in the trash. -/
  deleted : Option Moment := none
  deriving DecidableEq, Repr, Inhabited

/-- **What is to change in a note**: every field that is given. -/
structure NoteChange where
  /-- The new title. -/
  title : Option String := none
  /-- The new text. -/
  body : Option String := none
  /-- The new pinned state. -/
  pinned : Option Bool := none
  /-- The new folder, or that there is to be none. -/
  folder : Option (Option Nat) := none
  /-- The new tags. -/
  tags : Option (List Nat) := none
  /-- The new moment of the last change. -/
  modified : Option Moment := none
  /-- The new moment of deletion, or that there is to be none. -/
  deleted : Option (Option Moment) := none
  deriving DecidableEq, Repr, Inhabited

/-- The kinds of rows that have a number. -/
inductive RowKind
  /-- A note. -/
  | note
  /-- A tag. -/
  | tag
  /-- A folder. -/
  | folder
  deriving DecidableEq, Repr, Inhabited

/-- The number of the row that follows rows of these numbers. -/
def nextId (ids : List Nat) : Nat :=
  ids.foldl max 0 + 1

namespace Store

/-! ### What an edit has to respect -/

/-- A reference to a folder, where there is one, has to lead to a folder. -/
def checkFolder (isThere : Nat → Bool) : Option Nat → Except EditFault Unit
  | none => .ok ()
  | some id => if isThere id then .ok () else .error (.unknownFolder id)

/-- The tags of a note have to be there, and each at most once. -/
def checkTags (s : Store) : List Nat → Except EditFault Unit
  | [] => .ok ()
  | id :: ids =>
    if !s.hasTag id then .error (.unknownTag id)
    else if ids.contains id then .error (.repeatedTag id)
    else checkTags s ids

/-! ### Adding -/

/-- **Adding a folder.** A folder may lie in itself. -/
def addFolder (s : Store) (name : String) (parent : Option Nat) :
    Except EditFault (Store × Nat) := do
  let id := nextId (s.folders.map (·.id))
  checkFolder (fun p => p == id || s.hasFolder p) parent
  return ({ s with folders := s.folders ++ [⟨id, name, parent⟩] }, id)

/-- **Adding a tag.** -/
def addTag (s : Store) (name : String) : Store × Nat :=
  let id := nextId (s.tags.map (·.id))
  ({ s with tags := s.tags ++ [⟨id, name⟩] }, id)

/-- **Adding a note**, with its tags. -/
def addNote (s : Store) (d : NoteDraft) : Except EditFault (Store × Nat) := do
  let id := nextId (s.notes.map (·.id))
  checkFolder s.hasFolder d.folder
  checkTags s d.tags
  let note : Note :=
    ⟨id, d.title, d.body, d.folder, d.pinned, d.created, d.modified, d.deleted⟩
  return ({ s with
    notes := s.notes ++ [note]
    links := s.links ++ d.tags.map fun t => ⟨id, t⟩ }, id)

/-! ### Changing -/

/-- A note with a change applied to its own row. -/
def changeNote (c : NoteChange) (n : Note) : Note :=
  { n with
    title := c.title.getD n.title
    body := c.body.getD n.body
    pinned := c.pinned.getD n.pinned
    folder := c.folder.getD n.folder
    modified := c.modified.getD n.modified
    deleted := c.deleted.getD n.deleted }

/-- The links of a store in which a note is to carry the given tags. -/
def relink (s : Store) (note : Nat) : Option (List Nat) → List Link
  | none => s.links
  | some tags => s.links.filter (·.note != note) ++ tags.map fun t => ⟨note, t⟩

/-- **Changing a note.** A note that is not there is left alone. -/
def updateNote (s : Store) (id : Nat) (c : NoteChange) : Except EditFault Store := do
  if (s.note? id).isNone then return s
  checkFolder s.hasFolder (c.folder.getD none)
  checkTags s (c.tags.getD [])
  return { s with
    notes := s.notes.map fun n => if n.id == id then changeNote c n else n
    links := relink s id c.tags }

/-- **Moving a folder** into another one, or out of all. A folder that is not there is left alone, and one
may come to lie in itself, also by way of others. -/
def moveFolder (s : Store) (id : Nat) (parent : Option Nat) : Except EditFault Store := do
  if (s.folder? id).isNone then return s
  checkFolder s.hasFolder parent
  return { s with folders := s.folders.map fun f => if f.id == id then { f with parent } else f }

/-- **Giving a row a new name**; the name of a note is its title. -/
def rename (s : Store) (kind : RowKind) (id : Nat) (name : String) : Store :=
  match kind with
  | .note => { s with notes := s.notes.map fun n => if n.id == id then { n with title := name } else n }
  | .tag => { s with tags := s.tags.map fun t => if t.id == id then { t with name } else t }
  | .folder => { s with folders := s.folders.map fun f => if f.id == id then { f with name } else f }

/-! ### Deleting -/

/-- Whether a folder lies directly in one of the folders of the given numbers. -/
def isIn (f : Folder) (ids : List Nat) : Bool :=
  f.parent.any ids.contains

/-- The folders that lie directly in one of the folders of the given numbers. -/
def inside (ids : List Nat) (rest : List Folder) : List Folder :=
  rest.filter (isIn · ids)

/-- The folders that do not. -/
def outside (ids : List Nat) (rest : List Folder) : List Folder :=
  rest.filter (!isIn · ids)

/-- The given numbers of folders, and those of all folders in them among the others, `rest`. In each round
the folders that lie directly in one that is found are found, until there are none. -/
def withInner (ids : List Nat) (rest : List Folder) : List Nat :=
  if rest.any (isIn · ids) then
    withInner ((inside ids rest).map (·.id) ++ ids) (outside ids rest)
  else ids
termination_by rest.length
decreasing_by
  rename_i h
  obtain ⟨f, hf, hin⟩ := List.any_eq_true.mp h
  refine List.length_filter_lt_length_iff_exists.mpr ⟨f, hf, ?_⟩
  simp [hin]

/-- The numbers of a folder and of all folders in it; none if the folder is not there. -/
def subtree (s : Store) (id : Nat) : List Nat :=
  withInner ((s.folders.filter (·.id == id)).map (·.id)) (s.folders.filter (·.id != id))

/-- **Deleting a folder**, with all folders in it, however deep they are nested. -/
def deleteFolder (s : Store) (id : Nat) : Store :=
  let gone := s.subtree id
  { s with
    folders := s.folders.filter fun f => !gone.contains f.id
    notes := s.notes.map fun n =>
      if n.folder.any gone.contains then { n with folder := none } else n }

/-- **Deleting a tag**, with its links. -/
def deleteTag (s : Store) (id : Nat) : Store :=
  { s with tags := s.tags.filter (·.id != id), links := s.links.filter (·.tag != id) }

/-- **Deleting a note**, with its links. -/
def deleteNote (s : Store) (id : Nat) : Store :=
  { s with notes := s.notes.filter (·.id != id), links := s.links.filter (·.note != id) }

/-- Deleting a row; one that is not there is deleted without further ado. -/
def delete (s : Store) : RowKind → Nat → Store
  | .note => s.deleteNote
  | .tag => s.deleteTag
  | .folder => s.deleteFolder

/-! ### A store made in one go -/

/-- The store with one folder added for each name and parent. -/
def addFolders (s : Store) (folders : List (String × Option Nat)) : Except EditFault Store :=
  folders.foldlM (fun s f => (s.addFolder f.1 f.2).map (·.1)) s

/-- **The store of the given folders, tags and notes**, each numbered by its place. -/
def build (folders : List (String × Option Nat)) (tags : List String) (notes : List NoteDraft) :
    Except EditFault Store := do
  let s ← addFolders {} folders
  let s := tags.foldl (fun s t => (s.addTag t).1) s
  notes.foldlM (fun s d => (s.addNote d).map (·.1)) s

end Store

end NoteSearch
