import NoteSearch.Search.Predicate
import NoteSearch.Text.Quoted

/-!
# The values in a complaint

Where the database engine does not answer a statement, its complaint goes on with the values that were bound
in the statement, each in quotation marks, in a pair of parentheses. A value that is long loses its middle,
and so does a long list of values.

The complaint also shows the statement itself, which is the same text for all values.
-/

namespace NoteSearch

open Text

/-- The values bound in a condition, in the order in which it has them. A term is looked for in two places.
-/
def Condition.values : Condition → List String
  | carries name => [name]
  | filedIn name => [name]
  | mentions term =>
    let value := String.ofList (Like.marked term.toList)
    [value, value]
  | and l r => l.values ++ r.values
  | or l r => l.values ++ r.values
  | not c => c.values
  | _ => []

namespace Bound

/-- The greatest length of a value that is shown in full. -/
def maxLength : Nat := 300

/-- The greatest number of values that are all shown. -/
def maxCount : Nat := 100

/-- A value as it is shown. -/
def shown (value : String) : List Char :=
  let cs := (quoted value).toList
  if maxLength < cs.length then
    cs.take (maxLength / 2) ++ " ... (".toList ++ numeral (cs.length - maxLength)
      ++ " characters truncated) ... ".toList ++ cs.drop (cs.length - maxLength / 2)
  else cs

/-- Values with commas between them. -/
def listed (values : List String) : List Char :=
  [',', ' '].intercalate (values.map shown)

/-- **The values of a statement as they are shown.** -/
def list (values : List String) : List Char :=
  if maxCount < values.length then
    '(' :: listed (values.take (maxCount / 2)) ++ " ... ".toList ++ numeral (values.length - maxCount)
      ++ " parameters truncated ... ".toList ++ listed (values.drop (values.length - maxCount / 2)) ++ [')']
  else '(' :: listed values ++ (if values.length == 1 then [','] else []) ++ [')']

/-- **What a complaint says of the values** of a statement, on a line of its own; nothing if there are none.
-/
def note (values : List String) : String :=
  if values.isEmpty then "" else "\n[parameters: " ++ String.ofList (list values) ++ "]"

end Bound

/-- What a complaint says of the values that are bound in the statement for an expression. -/
def Expr.boundNote (e : Expr) : String :=
  Bound.note (((Predicate.ofExpr e).clause.map Condition.values).getD [])

end NoteSearch
