import NoteSearch.Query.Token
import NoteSearch.Search.Like

/-!
# Conditions on rows

A search is answered by the database, which tests a condition on each row of the note table. A
condition sees the tables and nothing else: whether a note carries a tag is a question to the link
table and the tag table, whether it is filed in a folder is one to the folder table.

Conditions are put together by `NoteSearch.Condition.conj`, `NoteSearch.Condition.disj` and
`NoteSearch.Condition.neg`, which leave no constant inside a condition. The names and terms in a
condition are bound to parameters, which are numbered from left to right.
-/

namespace NoteSearch

open Text

/-- **A condition on a row of the note table.** -/
inductive Condition
  /-- It always holds, or never. -/
  | constant (value : Bool)
  /-- A tag of this name is linked to the note. -/
  | carries (name : String)
  /-- The folder of the note has this name. -/
  | filedIn (name : String)
  /-- The title or the body contains this term. -/
  | mentions (term : String)
  /-- The note is pinned, or is not. -/
  | pinnedIs (flag : Bool)
  /-- Both hold. -/
  | and (left right : Condition)
  /-- At least one holds. -/
  | or (left right : Condition)
  /-- It does not hold. -/
  | not (inner : Condition)
  deriving DecidableEq, Repr, Inhabited

namespace Condition

/-! ### Putting conditions together -/

/-- Both hold. -/
def conj : Condition → Condition → Condition
  | constant true, r => r
  | constant false, _ => constant false
  | l, constant true => l
  | _, constant false => constant false
  | l, r => and l r

/-- At least one holds. -/
def disj : Condition → Condition → Condition
  | constant true, _ => constant true
  | constant false, r => r
  | _, constant true => constant true
  | l, constant false => l
  | l, r => or l r

/-- It does not hold. A condition on the pin is turned around. -/
def neg : Condition → Condition
  | constant b => constant !b
  | pinnedIs flag => pinnedIs !flag
  | c => not c

/-! ### Testing a row -/

/-- Whether two names are the same name, in the eyes of the database. -/
def sameName (a b : String) : Bool :=
  foldCase a == foldCase b

/-- Whether some tag of this name is linked to a note. -/
def linksTag (s : Store) (n : Note) (name : String) : Bool :=
  s.links.any fun l => l.note == n.id && s.tags.any fun t => t.id == l.tag && sameName t.name name

/-- Whether the folder of a note has this name. -/
def linksFolder (s : Store) (n : Note) (name : String) : Bool :=
  s.folders.any fun f => n.folder == some f.id && sameName f.name name

/-- Whether the title or the body of a note fits the pattern of a term. -/
def testTerm (n : Note) (term : String) : Except EngineFault Bool := do
  let pattern := Like.containing term.toList
  if ← Like.test pattern n.title.toList then return true
  Like.test pattern n.body.toList

/-- **Testing a row.** The right operand of an operator is tested only when the left one leaves the
answer open. The engine is free to choose another order, and puts off what asks another table; the order shows
only where the pattern of a term is too long. -/
def test (s : Store) (n : Note) : Condition → Except EngineFault Bool
  | constant b => .ok b
  | carries name => .ok (linksTag s n name)
  | filedIn name => .ok (linksFolder s n name)
  | mentions term => testTerm n term
  | pinnedIs flag => .ok (n.pinned == flag)
  | and l r => do if ← l.test s n then r.test s n else return false
  | or l r => do if ← l.test s n then return true else r.test s n
  | not c => do return !(← c.test s n)

/-! ### Parameters -/

/-- The terms in a condition, from left to right. -/
def terms : Condition → List String
  | mentions term => [term]
  | and l r => l.terms ++ r.terms
  | or l r => l.terms ++ r.terms
  | not c => c.terms
  | _ => []

/-- The names in a condition, from left to right. -/
def names : Condition → List String
  | carries name => [name]
  | filedIn name => [name]
  | and l r => l.names ++ r.names
  | or l r => l.names ++ r.names
  | not c => c.names
  | _ => []

/-- The parameter of a label and a number. -/
def paramName (label : String) (k : Nat) : String :=
  label ++ "_" ++ String.ofList (numeral k)

/-- **The parameters of a condition** and their values: two for each term, which is looked for in the
title and in the body, and one for each name. -/
def params (c : Condition) : List (String × String) :=
  (c.terms.zipIdx 1).flatMap (fun (term, k) =>
    let value := String.ofList (Like.marked term.toList)
    [(paramName "title" k, value), (paramName "body" k, value)])
  ++ (c.names.zipIdx 1).map fun (name, k) => (paramName "lower" k, name)

end Condition

/-- What an expression's leaf says about a row. -/
def Leaf.condition : Leaf → Condition
  | tag name => .carries name
  | folder name => .filedIn name
  | text term => .mentions term
  | pinned flag => .pinnedIs flag

end NoteSearch
