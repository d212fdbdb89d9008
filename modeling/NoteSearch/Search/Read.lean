import NoteSearch.Search.Predicate
import NoteSearch.Search.Statement

/-!
# Searching a database

What a search gives is a list of notes, in the order of every list of notes, without those in the
trash. The database selects the rows that satisfy a condition
(`NoteSearch.Database.fetchMatching`); the same predicate can also be tested on notes in memory
(`NoteSearch.Database.fetchMatchingInMemory`). A search for an expression takes exactly one read.
-/

namespace NoteSearch

/-- The members of a list that pass a test which may fail. One failure is a failure of the whole. -/
def selectRows (test : α → Except ε Bool) : List α → Except ε (List α)
  | [] => .ok []
  | a :: as => do
    let keep ← test a
    let rest ← selectRows test as
    return if keep then a :: rest else rest

namespace Store

/-- All notes that are not in the trash, as they are shown. -/
def fetchAll (s : Store) : List NoteView :=
  s.active.map s.view

/-- The notes of those whose rows satisfy a condition. -/
def fetchWhere (s : Store) (c : Condition) : Except EngineFault (List NoteView) :=
  return (← selectRows (c.test s) s.active).map s.view

end Store

/-- **The reason why a search for a sketch gives nothing.** -/
inductive SearchFault
  /-- The sketch is no expression. -/
  | notAnExpr
  /-- The database does not answer. -/
  | database (fault : DatabaseFault)
  deriving DecidableEq, Repr

namespace Database

/-- **All notes that are not in the trash.** -/
def fetchAll (d : Database) : Except DatabaseFault (List NoteView) :=
  return (← d.read .note).fetchAll

/-- **The notes that satisfy a predicate**, selected by the database. It has to take the condition before it
looks at a table. -/
def fetchMatching (d : Database) (p : Predicate) : Except DatabaseFault (List NoteView) :=
  match p.clause with
  | none => d.fetchAll
  | some c => do
    c.accept.mapError (.unreadable .note)
    ((← d.read .note).fetchWhere c).mapError (.unreadable .note)

/-- **The notes that satisfy a predicate**, selected in memory. -/
def fetchMatchingInMemory (d : Database) (p : Predicate) :
    Except DatabaseFault (List NoteView) :=
  return (← d.fetchAll).filter p.test

/-- **Searching for an expression**; without one, all notes are found. -/
def search (d : Database) : Option Expr → Except DatabaseFault (List NoteView)
  | none => d.fetchAll
  | some e => d.fetchMatching (.ofExpr e)

/-- The notes that satisfy a sketch, selected in one of the two ways. -/
def fetchSketch (fetch : Predicate → Except DatabaseFault (List NoteView)) (s : Sketch) :
    Except SearchFault (List NoteView) := do
  let p ← (Predicate.ofSketch s).mapError fun _ => .notAnExpr
  (fetch p).mapError .database

end Database

end NoteSearch
