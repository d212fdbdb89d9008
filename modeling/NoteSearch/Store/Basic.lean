import NoteSearch.Store.Moment

/-!
# The note store

Notes are filed in folders, which nest, and carry any number of tags. A store is four tables – folders,
tags, notes, and the links between notes and tags – whose rows refer to one another by number. The
names of folders and tags need not be unique, and a note in the trash stays in its table with the
moment of its deletion.
-/

namespace NoteSearch

/-- **A folder.** -/
structure Folder where
  /-- Its number. -/
  id : Nat
  /-- Its name. -/
  name : String
  /-- The folder that it lies in, if any. -/
  parent : Option Nat
  deriving DecidableEq, Repr, Inhabited

/-- **A tag.** -/
structure Tag where
  /-- Its number. -/
  id : Nat
  /-- Its name. -/
  name : String
  deriving DecidableEq, Repr, Inhabited

/-- **A note**, with a body in Markdown. -/
structure Note where
  /-- Its number. -/
  id : Nat
  /-- Its title. -/
  title : String
  /-- Its text. -/
  body : String
  /-- The folder that it is filed in, if any. -/
  folder : Option Nat
  /-- Whether it is kept on top of every list. -/
  pinned : Bool
  /-- When it was made. -/
  created : Moment
  /-- When it was last changed. -/
  modified : Moment
  /-- When it was put in the trash, if it was. -/
  deleted : Option Moment
  deriving DecidableEq, Repr, Inhabited

/-- **A link**: this note carries this tag. -/
structure Link where
  /-- The note. -/
  note : Nat
  /-- The tag. -/
  tag : Nat
  deriving DecidableEq, Repr, Inhabited

/-- **A note store**: its four tables. -/
structure Store where
  /-- The folders, older ones first. -/
  folders : List Folder := []
  /-- The tags, older ones first. -/
  tags : List Tag := []
  /-- The notes, older ones first. -/
  notes : List Note := []
  /-- Which note carries which tag. -/
  links : List Link := []
  deriving DecidableEq, Repr, Inhabited

namespace Note

/-- Whether a note is not in the trash. -/
def isActive (n : Note) : Bool :=
  n.deleted.isNone

/-- **The order of notes in a list**: pinned notes first, then the latest change first, then the larger
number first. -/
def precedes (m n : Note) : Bool :=
  if m.pinned != n.pinned then m.pinned
  else if m.modified.rank != n.modified.rank then n.modified.rank < m.modified.rank
  else n.id ≤ m.id

end Note

namespace Store

/-- The folder of a number. -/
def folder? (s : Store) (id : Nat) : Option Folder :=
  s.folders.find? (·.id == id)

/-- The tag of a number. -/
def tag? (s : Store) (id : Nat) : Option Tag :=
  s.tags.find? (·.id == id)

/-- The note of a number. -/
def note? (s : Store) (id : Nat) : Option Note :=
  s.notes.find? (·.id == id)

/-- Whether there is a folder of this number. -/
def hasFolder (s : Store) (id : Nat) : Bool :=
  s.folders.any (·.id == id)

/-- Whether there is a tag of this number. -/
def hasTag (s : Store) (id : Nat) : Bool :=
  s.tags.any (·.id == id)

/-- Whether this note carries this tag. -/
def hasLink (s : Store) (note tag : Nat) : Bool :=
  s.links.contains ⟨note, tag⟩

/-- **The notes that are not in the trash**, in the order of a list. -/
def active (s : Store) : List Note :=
  (s.notes.filter Note.isActive).mergeSort Note.precedes

end Store

end NoteSearch
