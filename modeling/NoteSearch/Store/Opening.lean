import NoteSearch.File.Tree
import NoteSearch.Store.Database

/-!
# Opening a database

A database lives in a file. Opening it makes the file, with the directories above it, unless a file is to
be there already; an empty file becomes an empty database. What is done with an open database is done as a
whole or not at all: the store goes back into its file only when everything went well.

The name `:memory:` stands for a database in memory, which is empty whenever it is opened. The engine
takes a `?` in the path of a file for the end of it, and takes what is left for a database in memory if it
is `:memory:` or nothing at all. What comes after the `?` are options to the engine. They are left out here,
with all that comes of them: an option that is not understood is a fault before anything is opened.

While it makes a database the engine keeps a second file beside it, and another one while it changes it. It
opens no file whose path or name leaves no room for the name of the second one, and finds that out when it
has made the file already.
-/

namespace NoteSearch

/-- **The reason why a database is not opened.** -/
inductive OpenFault
  /-- The database does not answer. -/
  | database (fault : DatabaseFault)
  /-- The directories above it cannot be made. -/
  | file (fault : FileFault)
  deriving DecidableEq, Repr

/-- **An open database**: its store, and the place of its file, if it has one. -/
structure OpenDatabase where
  /-- The place of the file. -/
  place : Option (List String)
  /-- The store. -/
  store : Store
  deriving Repr, Inhabited

/-- The path that stands for a database in memory. -/
def memoryPath : String := ":memory:"

namespace Tree

/-- The place of the file that the engine uses for a path; there is none for a database in memory. The options
after a `?` are not looked at. -/
def enginePlace (here : List String) (path : Path) : Option (List String) :=
  let name := String.ofList (path.text.toList.takeWhile (· != '?'))
  if name == "" || name == memoryPath then none else some ((Path.ofText name).normal here)

/-- The greatest length of the path of a file that the engine opens, in bytes. -/
def maxEngineBytes : Nat := 504

/-- What the name of the file beside a database ends with while the database is made. -/
def journalEnding : String := "-journal"

/-- What the name of the file beside a database ends with while the database is changed. -/
def logEnding : String := "-wal"

/-- Whether a file can stand beside the one at a place, under the same name with an ending. -/
def hasRoomBeside (place : List String) (ending : String) : Bool :=
  (place.getLast?.getD "" ++ ending).utf8ByteSize ≤ maxNameBytes

/-- Whether the path to a place is short enough for the engine. -/
def isInReach (place : List String) : Bool :=
  (Path.absolute place).text.utf8ByteSize ≤ maxEngineBytes

/-- The engine makes an empty database of an empty file, or where there is none. -/
def makeDatabase (t : Tree) (place : List String) : Except EngineFault (Tree × OpenDatabase) :=
  if hasRoomBeside place journalEnding then .ok (t.put place (.database {}), ⟨place, {}⟩)
  else .error .unableToOpen

/-- Whether the engine makes the file at a place. -/
def isMade (t : Tree) (place : List String) : Bool :=
  t.follow [] place = .absent && t.get? place.dropLast = some .directory

/-- The engine opens the file at a place: the tree, where the file may just have been made, and what is
in it. -/
def openPlace (t : Tree) : Option (List String) → Except EngineFault (Tree × OpenDatabase)
  | none => .ok (t, ⟨none, {}⟩)
  | some place =>
    if !isInReach place then .error .unableToOpen
    else
      match t.follow [] place with
      | .found place (.database s) =>
        if hasRoomBeside place logEnding then .ok (t, ⟨place, s⟩) else .error .unableToOpen
      | .found place (.text "") => t.makeDatabase place
      | .found _ (.text _) => .error .notADatabase
      | _ => if t.isMade place then t.makeDatabase place else .error .unableToOpen

/-- The tree after the engine has failed to open the file at a place: a file that it has made is empty, and
stays there. -/
def afterFailure (t : Tree) : Option (List String) → Tree
  | none => t
  | some place => if isInReach place && t.isMade place then t.put place (.text "") else t

/-- The tree with the directories above a database that is to be made. -/
def prepare (t : Tree) (here : List String) (path : Path) (create : Bool) :
    Except OpenFault Tree := do
  if ← (t.hasEntry here path).mapError .file then return t
  if !create then .error (.database (.notFound path.text))
  else (t.makeDirectory here path.parent).mapError .file

/-- **Opening the database at a path**: the tree afterwards, and the open database. -/
def openDatabase (t : Tree) (here : List String) (name : String) (create : Bool) :
    Tree × Except OpenFault OpenDatabase :=
  if name == memoryPath then (t, .ok ⟨none, {}⟩)
  else
    let path := Path.ofText name
    match t.prepare here path create with
    | .error fault => (t, .error fault)
    | .ok t =>
      match t.openPlace (enginePlace here path) with
      | .ok (t, d) => (t, .ok d)
      | .error cause =>
        (t.afterFailure (enginePlace here path), .error (.database (.cannotOpen path.text cause)))

/-- The tree with a store put into the file of an open database. -/
def commit (t : Tree) (d : OpenDatabase) (s : Store) : Tree :=
  match d.place with
  | some place => t.put place (.database s)
  | none => t

/-- **The end of a session** with an open database: the store that the session has made is put back if it has
come to its end, and is thrown away if it has broken off. -/
def endSession (t : Tree) (d : OpenDatabase) : Store × Except ε α → Tree × Except (OpenFault ⊕ ε) α
  | (s, .ok a) => (t.commit d s, .ok a)
  | (_, .error fault) => (t, .error (.inr fault))

/-- **A session with the database at a path**: the database is opened, what is done makes another store of the
one in it, and comes to its end or breaks off. The tree is returned in either case. -/
def withSession (t : Tree) (here : List String) (name : String) (create : Bool)
    (session : Store → Store × Except ε α) : Tree × Except (OpenFault ⊕ ε) α :=
  match t.openDatabase here name create with
  | (t, .error fault) => (t, .error (.inl fault))
  | (t, .ok d) => t.endSession d (session d.store)

/-- **Working with a database** in one step: what the step makes of the store is put back, unless the step
fails. -/
def useDatabase (t : Tree) (here : List String) (name : String) (create : Bool)
    (step : Store → Except ε (α × Store)) : Tree × Except (OpenFault ⊕ ε) α :=
  t.withSession here name create fun s => match step s with
    | .ok (a, s) => (s, .ok a)
    | .error fault => (s, .error fault)

end Tree

end NoteSearch
