import NoteSearch.Command.Option
import NoteSearch.Config.Basic
import NoteSearch.Console.Layout
import NoteSearch.File.Tree
import NoteSearch.Store.Opening

/-!
# What a run of a command comes to

A run prints, to its output or to its errors, may leave the file tree changed, and ends with an exit code.
It breaks off without one when the command line is refused, when a message has markup that cannot be read,
or when the surroundings give way.

Messages have markup, and so has what is put into them: a part of a name that looks like a tag is not
printed.
-/

namespace NoteSearch.Command

open Console

/-- **Something that is printed.** -/
inductive Print
  /-- A text to the output. -/
  | out (text : String)
  /-- A text to the errors. -/
  | err (text : String)
  /-- A text that a program shows page by page; it goes to the output if that program cannot be run. -/
  | paged (program : List String) (text : String)
  deriving DecidableEq, Repr, Inhabited

namespace Print

/-- What is printed to the output, apart from what is shown page by page. -/
def outText : Print → String
  | out text => text
  | _ => ""

/-- What is printed to the errors. -/
def errText : Print → String
  | err text => text
  | _ => ""

end Print

/-- **How a run ends.** -/
structure Outcome where
  /-- The exit code. -/
  exit : Nat
  /-- What was printed, in order. -/
  prints : List Print
  /-- The file tree afterwards. -/
  tree : Tree
  deriving Repr, Inhabited

namespace Outcome

/-- What was printed to the output, apart from what is shown page by page. -/
def out (o : Outcome) : String :=
  String.join (o.prints.map Print.outText)

/-- What was printed to the errors. -/
def err (o : Outcome) : String :=
  String.join (o.prints.map Print.errText)

end Outcome

/-- **The reason why a run breaks off.** -/
inductive Breakdown
  /-- The command line is refused. -/
  | usage (fault : UsageFault)
  /-- A message cannot be printed. -/
  | markup (fault : MarkupFault)
  /-- There are no settings, for a reason that does not lie in their values. -/
  | config (fault : Config.Fault)
  /-- A path leads nowhere. -/
  | path (fault : PathFault)
  /-- A file cannot be looked at. -/
  | file (fault : FileFault)
  /-- The program that shows texts page by page has no name. -/
  | unnamedPager
  deriving DecidableEq, Repr, Inhabited

namespace Breakdown

/-- What the user is told. -/
def message : Breakdown → String
  | usage fault => fault.message
  | markup fault => fault.message
  | config fault => fault.message?.getD "The settings cannot be read."
  | path .noHome => "There is no such home directory."
  | path .embeddedNul => "A path has a NUL character in it."
  | path .tooLong => "A path is too long."
  | file fault => fault.message
  | unnamedPager => "The program that shows pages has no name."

/-- The exit code of a run that breaks off. -/
def exit : Breakdown → Nat
  | usage _ => 2
  | _ => 1

end Breakdown

/-- **What a run depends on besides the file tree and its command line.** -/
structure Environment where
  /-- Where paths lead. -/
  surroundings : Surroundings
  /-- Whether colors are switched off. -/
  noColor : Bool := false
  /-- The program that shows texts page by page, with its arguments. -/
  pager : Option String := none
  deriving Repr, Inhabited

/-! ### Exit codes -/

/-- The exit code of a run that went well, whether or not it found anything. -/
def exitSuccess : Nat := 0

/-- The exit code of a run that was asked for something that makes no sense. -/
def exitRefused : Nat := 1

/-- The exit code of a run whose database does not answer. -/
def exitDatabase : Nat := 2

/-- The exit code of a run that finds no database. -/
def exitNoDatabase : Nat := 3

/-! ### Messages -/

/-- A message as it is printed. -/
def printed (markup : String) : Except Breakdown String :=
  (Marked.messageOfMarkup markup).mapError .markup

/-- A message to the output. -/
def tell (message : String) : Except Breakdown Print :=
  return .out (← printed ("[info]" ++ message ++ "[/info]"))

/-- A warning. -/
def warn (message : String) : Except Breakdown Print :=
  return .err (← printed ("[warning]Warning:[/warning] " ++ message))

/-- An error message. -/
def complain (message : String) : Except Breakdown Print :=
  return .err (← printed ("[error]Error:[/error] " ++ message))

/-- What the user may do about an error. -/
def advise (message : String) : Except Breakdown Print :=
  return .err (← printed ("  [info]Hint:[/info] " ++ message))

/-- The run that ends with an error message. -/
def refuse (exit : Nat) (message : String) (tree : Tree) : Except Breakdown Outcome :=
  return ⟨exit, [← complain message], tree⟩

/-- The run that ends with an error message and advice. -/
def refuseWithAdvice (exit : Nat) (message advice : String) (tree : Tree) :
    Except Breakdown Outcome :=
  return ⟨exit, [← complain message, ← advise advice], tree⟩

/-- **What a command is told by the program that it is a part of.** -/
structure Settings where
  /-- The settings from the file and the command line. -/
  config : Config
  /-- Whether only results and errors are printed. -/
  quiet : Bool := false
  /-- Whether the number of matches is printed. -/
  verbose : Bool := false
  /-- Whether tables are colored. -/
  colored : Bool := true
  /-- Whether tables of notes are shown page by page. -/
  paging : Bool := false
  /-- The program that shows them, with its arguments. -/
  pager : Option String := none
  /-- Where paths lead. -/
  surroundings : Surroundings
  deriving Repr, Inhabited

/-! ### Using the database -/

/-- The run that ends because the database is not opened. -/
def refuseOpening (tree : Tree) : OpenFault → Except Breakdown Outcome
  | .file fault => .error (.file fault)
  | .database (.notFound path) =>
    refuseWithAdvice exitNoDatabase (DatabaseFault.notFound path).message
      "Check [paths] database in your config or pass --database" tree
  | .database fault => refuse exitDatabase ("Database error: " ++ fault.message) tree

/-- **A run that reads the database of the settings**, which has to be there, and goes on with what it has
read. -/
def Settings.withDatabase (s : Settings) (t : Tree) (read : Store → α)
    (goOn : α → Tree → Except Breakdown Outcome) : Except Breakdown Outcome :=
  let step : Store → Except Empty (α × Store) := fun store => .ok (read store, store)
  match t.useDatabase s.surroundings.here s.config.database.text false step with
  | (t, .ok a) => goOn a t
  | (t, .error (.inl fault)) => refuseOpening t fault

end NoteSearch.Command
