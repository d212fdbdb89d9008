import NoteSearch.Command.Outcome
import NoteSearch.Text.Split

/-!
# Showing a table page by page

A table that is longer than the screen can be handed to a program that shows it page by page. The user names
that program with its arguments; without a name it is `less`, which also keeps the head of the table in
sight.
-/

namespace NoteSearch.Command

open Text

/-- The argument that keeps the first lines in sight. -/
def headerArgument (program : String) : List String :=
  if program == "less" then ["--header=3"] else []

/-- **The program that shows a table page by page**, with its arguments. -/
def pagerProgram (named : Option String) : Except Breakdown (List String) :=
  match named.getD "" with
  | "" => .ok (["less", "-RFS"] ++ headerArgument "less")
  | s =>
    match (blankWords s.toList).map String.ofList with
    | [] => .error .unnamedPager
    | program :: arguments => .ok (program :: arguments ++ headerArgument program)

/-- A table as the settings want it shown. -/
def showTable (s : Settings) (table : String) : Except Breakdown Print :=
  if s.paging then return .paged (← pagerProgram s.pager) table else .ok (.out table)

end NoteSearch.Command
