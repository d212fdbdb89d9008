import NoteSearch.Query.Expr
import NoteSearch.Text.Word

/-!
# Writing an expression as a query

The text of an expression is the query that spells it. `AND` is written without parentheses and `OR`
always with them, so an `OR` can stand inside an `AND`; an `AND` to the right of an `AND`, and an
`AND` or `NOT` under a `NOT`, are put in parentheses too. Names are quoted when they would not be read
as one bare name.
-/

namespace NoteSearch

open Text

/-- Whether a name has to be quoted: it contains a space, a hyphen or a parenthesis, or it is not a
run of name characters. -/
def needsQuotes (name : List Char) : Bool :=
  name.any (fun c => c == ' ' || c == '-' || c == '(' || c == ')')
    || !(name != [] && name.all isNameChar)

/-- A name as it is written after `tag:` or `folder:`. -/
def renderName (name : String) : List Char :=
  if needsQuotes name.toList then '"' :: name.toList ++ ['"'] else name.toList

/-- A leaf as it is written in a query. -/
def Leaf.render : Leaf → List Char
  | tag name => "tag:".toList ++ renderName name
  | folder name => "folder:".toList ++ renderName name
  | text term => term.toList
  | pinned true => "pinned:true".toList
  | pinned false => "pinned:false".toList

/-- A text in parentheses, when it needs them. -/
def parenthesized (needed : Bool) (cs : List Char) : List Char :=
  if needed then '(' :: cs ++ [')'] else cs

namespace Expr

/-- The characters of an expression written as a query. -/
def render : Expr → List Char
  | leaf l => l.render
  | and l r => l.render ++ " AND ".toList ++ parenthesized r.isAnd r.render
  | or l r => parenthesized true (l.render ++ " OR ".toList ++ r.render)
  | not e => "NOT ".toList ++ parenthesized (e.isAnd || e.isNot) e.render

/-- **The text of an expression**: the query that spells it. -/
def text (e : Expr) : String :=
  String.ofList e.render

end Expr

end NoteSearch
