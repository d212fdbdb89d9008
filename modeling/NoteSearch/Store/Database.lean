import NoteSearch.Store.View

/-!
# The database around a store

A store is kept by a database engine, and reading it can fail: its tables may be gone, a pattern or a whole
condition may be too large for the engine, a file may hold something else than a database, or there may be
no file at all. A fault tells what could not be done, and carries the engine's own words for the reason,
where the engine has a say in it.
-/

namespace NoteSearch

/-- **What the database engine complains about.** -/
inductive EngineFault
  /-- A table is not there. -/
  | noTable (name : String)
  /-- The pattern of a `LIKE` is longer than the engine allows. -/
  | patternTooLong
  /-- A statement is nested deeper than the engine can read. -/
  | stackOverflow
  /-- The tree of a condition is higher than the engine allows. -/
  | treeTooHigh
  /-- The file holds something else. -/
  | notADatabase
  /-- The file cannot be opened. -/
  | unableToOpen
  deriving DecidableEq, Repr

namespace EngineFault

/-- The words of the engine. -/
def message : EngineFault → String
  | noTable name => "(sqlite3.OperationalError) no such table: " ++ name
  | patternTooLong => "(sqlite3.OperationalError) LIKE or GLOB pattern too complex"
  | stackOverflow => "(sqlite3.OperationalError) parser stack overflow"
  | treeTooHigh =>
    "(sqlite3.OperationalError) Expression tree is too large (maximum depth 1000)"
  | notADatabase => "(sqlite3.DatabaseError) file is not a database"
  | unableToOpen => "(sqlite3.OperationalError) unable to open database file"

end EngineFault

/-- **The reason why a database does not answer.** -/
inductive DatabaseFault
  /-- Rows of a kind cannot be read. -/
  | unreadable (kind : RowKind) (cause : EngineFault)
  /-- The file cannot be opened as a database. -/
  | cannotOpen (path : String) (cause : EngineFault)
  /-- There is no file, and none is to be made. -/
  | notFound (path : String)
  /-- The source of the notes says so. -/
  | reported (message : String)
  deriving DecidableEq, Repr

namespace RowKind

/-- The rows of a kind, as messages name them. -/
def plural : RowKind → String
  | note => "notes"
  | tag => "tags"
  | folder => "folders"

/-- The table that holds the rows of a kind. -/
def table : RowKind → String
  | note => "note"
  | tag => "tag"
  | folder => "folder"

end RowKind

namespace DatabaseFault

/-- What the user is told. -/
def message : DatabaseFault → String
  | unreadable kind cause => "Failed to read " ++ kind.plural ++ ": " ++ cause.message
  | cannotOpen path cause => "Cannot open database " ++ path ++ ": " ++ cause.message
  | notFound path => "Database not found: " ++ path
  | reported message => message

end DatabaseFault

/-- **A database**: a store, or what is left of one when its tables are dropped. -/
inductive Database
  /-- All tables are in place. -/
  | holding (store : Store)
  /-- The tables are gone. -/
  | emptied
  deriving Repr, Inhabited

namespace Database

/-- The store of a database that is about to be read for rows of a kind. -/
def read (kind : RowKind) : Database → Except DatabaseFault Store
  | holding s => .ok s
  | emptied => .error (.unreadable kind (.noTable kind.table))

/-- The names of all tags, in the order of a list. -/
def listTags (d : Database) : Except DatabaseFault (List String) :=
  return (← d.read .tag).listTags

/-- The names of all folders, in the order of a list. -/
def listFolders (d : Database) : Except DatabaseFault (List String) :=
  return (← d.read .folder).listFolders

end Database

end NoteSearch
