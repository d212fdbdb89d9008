import NoteSearch.Snippet.Basic
import NoteSearch.Store.Edit
import NoteSearch.Text.FoldCase

/-!
# What a reader of the store sees

A list shows a note with the name of its folder and the names of its tags in place of the numbers that
lead to them. Lists of tags and folders are by name, where `b` and `B` stand side by side.

The names of a note's tags are a set: a name is there once, however many tags of that name the note
carries. They are kept in the order of their characters, so that equal sets are equal lists.
-/

namespace NoteSearch

open Text

/-- **A note as it is shown.** -/
structure NoteView where
  /-- The number of the note. -/
  id : Nat
  /-- Its title. -/
  title : String
  /-- Its text. -/
  body : String
  /-- Whether it is kept on top of every list. -/
  pinned : Bool
  /-- The name of its folder. -/
  folder : Option String
  /-- The names of its tags, each once, in order. -/
  tags : List String
  /-- When it was made. -/
  created : Moment
  /-- When it was last changed. -/
  modified : Moment
  deriving DecidableEq, Repr, Inhabited

namespace NoteView

/-- The preview of a note. -/
def preview (n : NoteView) (maxLength : Int) : String :=
  snippet n.body maxLength

end NoteView

/-- The given names, each once, in the order of their characters. -/
def nameSet (names : List String) : List String :=
  (names.mergeSort fun a b => a ≤ b).eraseReps

/-- The order of names in a list: without regard to the case of ASCII letters, and then by their
characters. -/
def nameLe (a b : String) : Bool :=
  if foldCase a = foldCase b then a ≤ b else foldCase a ≤ foldCase b

namespace Store

/-- The names of the tags that a note carries. -/
def tagNames (s : Store) (note : Nat) : List String :=
  ((s.links.filter (·.note == note)).filterMap fun l => s.tag? l.tag).map (·.name)

/-- **A note of the store as it is shown.** -/
def view (s : Store) (n : Note) : NoteView where
  id := n.id
  title := n.title
  body := n.body
  pinned := n.pinned
  folder := (n.folder.bind s.folder?).map (·.name)
  tags := nameSet (s.tagNames n.id)
  created := n.created
  modified := n.modified

/-- The names of all tags, in the order of a list. -/
def listTags (s : Store) : List String :=
  (s.tags.map (·.name)).mergeSort nameLe

/-- The names of all folders, in the order of a list. -/
def listFolders (s : Store) : List String :=
  (s.folders.map (·.name)).mergeSort nameLe

/-! ### Rows in short

The short form of a row tells its kind, its number and the start of its name, as it is. -/

/-- The short form of a row of a kind, a number, and a name under a heading. -/
def shortForm (kind : String) (id : Nat) (heading name : String) : String :=
  "<" ++ kind ++ "(id=" ++ String.ofList (numeral id) ++ ", " ++ heading ++ "='" ++ name ++ "')>"

/-- **The short form of the row of a number**, if there is one. -/
def short? (s : Store) (kind : RowKind) (id : Nat) : Option String :=
  match kind with
  | .note => (s.note? id).map fun n =>
    shortForm "Note" n.id "title" (String.ofList (n.title.toList.take 30))
  | .tag => (s.tag? id).map fun t => shortForm "Tag" t.id "name" t.name
  | .folder => (s.folder? id).map fun f => shortForm "Folder" f.id "name" f.name

/-- The short form of the link between a note and a tag, if there is one. -/
def shortLink? (s : Store) (note tag : Nat) : Option String :=
  if s.hasLink note tag then
    some ("<NoteTag(note=" ++ String.ofList (numeral note) ++ ", tag="
      ++ String.ofList (numeral tag) ++ ")>")
  else none

end Store

end NoteSearch
