import NoteSearch.File.Path
import NoteSearch.Store.Basic
import NoteSearch.Text.Decimal
import NoteSearch.Text.Quoted

/-!
# The file tree

The files that the program reads and writes: directories, texts, and note databases, each at its path
from the root. A path is followed name by name, and only a directory leads on; so `..` takes a step back
only from a directory that is there. Making a directory makes the directories above it, and fails where a
file is in the way.
-/

namespace NoteSearch

open Text

/-- **What is found at a path.** -/
inductive Entry
  /-- A directory. -/
  | directory
  /-- A file that holds a text. -/
  | text (content : String)
  /-- A file that holds a note database. -/
  | database (store : Store)
  deriving DecidableEq, Repr, Inhabited

/-- **The reason why a file operation fails**, with the path that it was asked for. -/
inductive FileFault
  /-- Something is not there. -/
  | absent (path : String)
  /-- Something is there already. -/
  | occupied (path : String)
  /-- A file stands where a directory would have to be. -/
  | notADirectory (path : String)
  /-- A directory stands where a file would have to be. -/
  | isADirectory (path : String)
  /-- A name is too long. -/
  | nameTooLong (path : String)
  deriving DecidableEq, Repr, Inhabited

namespace FileFault

/-- The message of an operating system error. -/
def systemMessage (number : Nat) (reason path : String) : String :=
  "[Errno " ++ String.ofList (numeral number) ++ "] " ++ reason ++ ": " ++ quoted path

/-- What the user is told. -/
def message : FileFault → String
  | absent path => systemMessage 2 "No such file or directory" path
  | occupied path => systemMessage 17 "File exists" path
  | notADirectory path => systemMessage 20 "Not a directory" path
  | isADirectory path => systemMessage 21 "Is a directory" path
  | nameTooLong path => systemMessage 36 "File name too long" path

end FileFault

/-- **A file tree**: what is at which path, given by its names from the root. The root itself is always
there. -/
structure Tree where
  /-- The entries below the root. -/
  entries : List (List String × Entry)
  deriving DecidableEq, Repr, Inhabited

/-- **Where a path leads.** -/
inductive Destination
  /-- To an entry, at the given place. -/
  | found (place : List String) (entry : Entry)
  /-- To nothing: some directory on the way, or the last entry, is not there. -/
  | absent
  /-- To nothing: something on the way is no directory. -/
  | blocked
  /-- To nothing: a name on the way is too long. -/
  | tooLong
  deriving DecidableEq, Repr, Inhabited

/-- The greatest length of a name, in bytes. -/
def maxNameBytes : Nat := 255

/-- The greatest length of a path, in bytes. -/
def maxPathBytes : Nat := 4095

namespace Tree

/-- The entry at a place. -/
def get? (t : Tree) (place : List String) : Option Entry :=
  if place.isEmpty then some .directory else t.entries.lookup place

/-- The tree with an entry put at a place. -/
def put (t : Tree) (place : List String) (e : Entry) : Tree where
  entries := if t.entries.any (·.1 == place) then
      t.entries.map fun x => if x.1 == place then (place, e) else x
    else t.entries ++ [(place, e)]

/-- Where the given names lead from a place. -/
def follow (t : Tree) (place : List String) : List String → Destination
  | [] =>
    match t.get? place with
    | some e => .found place e
    | none => .absent
  | n :: ns =>
    match t.get? place with
    | none => .absent
    | some .directory =>
      if n == ".." then t.follow place.dropLast ns
      else if maxNameBytes < n.utf8ByteSize then .tooLong
      else t.follow (place ++ [n]) ns
    | some _ => .blocked

/-- **Where a path leads** from the directory `here`. -/
def look (t : Tree) (here : List String) (p : Path) : Destination :=
  if maxPathBytes < p.text.utf8ByteSize then .tooLong
  else match p.start with
    | .here => t.follow [] (here ++ p.names)
    | _ => t.follow [] p.names

/-- Whether something is at a path. A path that is too long is a fault. -/
def hasEntry (t : Tree) (here : List String) (p : Path) : Except FileFault Bool :=
  match t.look here p with
  | .found _ _ => .ok true
  | .tooLong => .error (.nameTooLong p.text)
  | _ => .ok false

/-- Whether a directory is at a path. -/
def hasDirectory (t : Tree) (here : List String) (p : Path) : Bool :=
  match t.look here p with
  | .found _ .directory => true
  | _ => false

/-! ### Making directories -/

/-- Making one directory, in a directory that has to be there. -/
def makeOne (t : Tree) (here : List String) (p : Path) : Except FileFault Tree :=
  match t.look here p with
  | .found _ _ => .error (.occupied p.text)
  | .blocked => .error (.notADirectory p.text)
  | .tooLong => .error (.nameTooLong p.text)
  | .absent =>
    match t.look here p.parent, p.names.getLast? with
    | .found place .directory, some name => .ok (t.put (place ++ [name]) .directory)
    | _, _ => .error (.absent p.text)

/-- Making one directory, unless it is there. -/
def makeOneUnlessThere (t : Tree) (here : List String) (p : Path) : Except FileFault Tree :=
  if t.hasDirectory here p then .ok t else t.makeOne here p

/-- **Making a directory**, with all directories above it, as far as they are not there. The directory is
given by the number of names that lead to it from the start of a path. -/
def makeFirst (t : Tree) (here : List String) (p : Path) : Nat → Except FileFault Tree
  | 0 => t.makeOneUnlessThere here { p with names := [] }
  | count + 1 =>
    let p' := { p with names := p.names.take (count + 1) }
    match t.makeOneUnlessThere here p' with
    | .error (.absent _) => do (← t.makeFirst here p count).makeOneUnlessThere here p'
    | r => r

/-- Making the directory at a path, with all directories above it. -/
def makeDirectory (t : Tree) (here : List String) (p : Path) : Except FileFault Tree :=
  t.makeFirst here p p.names.length

/-! ### Writing -/

/-- **Writing a text** to a path, in a directory that is there. -/
def write (t : Tree) (here : List String) (p : Path) (content : String) : Except FileFault Tree :=
  match t.look here p with
  | .found _ .directory => .error (.isADirectory p.text)
  | .found place _ => .ok (t.put place (.text content))
  | .blocked => .error (.notADirectory p.text)
  | .tooLong => .error (.nameTooLong p.text)
  | .absent =>
    match t.look here p.parent, p.names.getLast? with
    | .found place .directory, some name => .ok (t.put (place ++ [name]) (.text content))
    | _, _ => .error (.absent p.text)

end Tree

end NoteSearch
