import NoteSearch.Store.Opening

/-!
# Visits

A visit opens a database, looks at the store in it, may add a tag, and may break off after that. The visits
to one path are made one after another, each with the file tree that the one before it has left behind.
-/

namespace NoteSearch

/-- **A visit to a database.** -/
structure Visit where
  /-- Whether a file that is not there is to be made. -/
  create : Bool
  /-- The tag that is added, if one is. -/
  tag : Option String
  /-- The fault that the visit breaks off with, if it does. -/
  fault : Option String
  deriving DecidableEq, Repr, Inhabited

/-- **What comes of a visit**: the store that was found, or a fault of opening, or else the fault that the
visit broke off with, and the store that was found before that. -/
abbrev VisitOutcome := Except (OpenFault ⊕ String × Store) Store

namespace Store

/-- The store with tags of the given names added. -/
def withTags (s : Store) (names : List String) : Store :=
  names.foldl (fun s name => (s.addTag name).1) s

end Store

namespace Visit

/-- What is done with an open database: the tag is added, and after that the visit may break off. -/
def session (v : Visit) (s : Store) : Store × Except (String × Store) Store :=
  (s.withTags v.tag.toList, match v.fault with
    | some fault => .error (fault, s)
    | none => .ok s)

/-- What a visit to a store comes to. -/
def outcome (v : Visit) (s : Store) : VisitOutcome :=
  match v.fault with
  | some fault => .error (.inr (fault, s))
  | none => .ok s

/-- The tags that visits have added: those of the visits that came to their end. -/
def tagsAdded : List (Visit × VisitOutcome) → List String
  | [] => []
  | (v, .ok _) :: visits => v.tag.toList ++ tagsAdded visits
  | (_, .error _) :: visits => tagsAdded visits

end Visit

namespace Tree

/-- **A visit to the database at a path.** -/
def visit (t : Tree) (here : List String) (name : String) (v : Visit) : Tree × VisitOutcome :=
  t.withSession here name v.create v.session

/-- **Visits to the database at a path**, one after another: the tree that is left behind, and each visit
with what came of it. -/
def visits (t : Tree) (here : List String) (name : String) :
    List Visit → Tree × List (Visit × VisitOutcome)
  | [] => (t, [])
  | v :: vs =>
    let (t, outcome) := t.visit here name v
    let (t, rest) := t.visits here name vs
    (t, (v, outcome) :: rest)

end Tree

end NoteSearch
