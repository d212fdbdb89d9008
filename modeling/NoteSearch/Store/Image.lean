import NoteSearch.File.Tree
import NoteSearch.Store.Page

/-!
# A store in a database file

The four tables of a store are kept in a database file. A row has its number in front and the other values
in a fixed order; colors, and the moments at which folders and tags were made, play no part in a search and
are passed over.

What is in a file is a database, if it can be read as one, and otherwise a text.
-/

namespace NoteSearch

namespace Datum

/-- The text that a value is. -/
def text? : Datum → Option String
  | text s => some s
  | _ => none

/-- The number of a row that a value is. -/
def nat? : Datum → Option Nat
  | integer (.ofNat n) => some n
  | _ => none

/-- A value that may be missing. -/
def optional? (read? : Datum → Option α) : Datum → Option (Option α)
  | null => some none
  | d => (read? d).map some

/-- The moment that a value is: a date and a time with a space between them. -/
def moment? (d : Datum) : Option Moment := do
  Moment.ofText? (String.ofList ((← d.text?).toList.map fun c => if c == ' ' then 'T' else c))

end Datum

namespace Row

/-- The folder of a row. -/
def folder? (r : Row) : Option Folder :=
  match r.data with
  | _ :: name :: parent :: _ => do return ⟨r.id, ← name.text?, ← parent.optional? Datum.nat?⟩
  | _ => none

/-- The tag of a row. -/
def tag? (r : Row) : Option Tag :=
  match r.data with
  | _ :: name :: _ => do return ⟨r.id, ← name.text?⟩
  | _ => none

/-- The note of a row. -/
def note? (r : Row) : Option Note :=
  match r.data with
  | [_, title, body, folder, pinned, created, modified, deleted] => do
    return {
      id := r.id
      title := ← title.text?
      body := ← body.text?
      folder := ← folder.optional? Datum.nat?
      pinned := (← pinned.nat?) != 0
      created := ← created.moment?
      modified := ← modified.moment?
      deleted := ← deleted.optional? Datum.moment? }
  | _ => none

/-- The link of a row. -/
def link? (r : Row) : Option Link :=
  match r.data with
  | [note, tag] => do return ⟨← note.nat?, ← tag.nat?⟩
  | _ => none

end Row

/-- **The store in a database file**, if every row in it makes sense. -/
def Store.ofFile? (f : DatabaseFile) : Option Store := do
  return {
    folders := ← (← f.table? "folder").mapM Row.folder?
    tags := ← (← f.table? "tag").mapM Row.tag?
    notes := ← (← f.table? "note").mapM Row.note?
    links := ← (← f.table? "note_tag").mapM Row.link? }

/-- The text that stands for bytes that are no text. -/
def illegible : String := "\uFFFD"

/-- **The entry of a file** with the given bytes. -/
def Entry.ofBytes (bytes : ByteArray) : Entry :=
  match (DatabaseFile.ofBytes? bytes).bind Store.ofFile? with
  | some s => .database s
  | none => .text ((String.fromUTF8? bytes).getD illegible)

end NoteSearch
