import NoteSearch.Command.Outcome
import NoteSearch.Console.Echo
import NoteSearch.Console.Table

/-!
# The filters command

The tags and folders that there are, each as a filter that can be pasted into a query: as a table, or
plainly, one filter on each line.
-/

namespace NoteSearch.Command

open Console

/-- **What notes can be filtered by**, by name. -/
inductive FilterKind
  /-- A tag. -/
  | tag
  /-- A folder. -/
  | folder
  deriving DecidableEq, Repr, Inhabited

namespace FilterKind

/-- The spelling of a kind. -/
def name : FilterKind → String
  | tag => "tag"
  | folder => "folder"

/-- The expression that asks for a name. -/
def expr (name : String) : FilterKind → Expr
  | tag => .leaf (.tag name)
  | folder => .leaf (.folder name)

/-- The names of a kind in a store, in the order of a list. -/
def namesIn (s : Store) : FilterKind → List String
  | tag => s.listTags
  | folder => s.listFolders

end FilterKind

/-- **A filter.** -/
structure Filter where
  /-- Its kind. -/
  kind : FilterKind
  /-- The name that it asks for. -/
  name : String
  deriving DecidableEq, Repr, Inhabited

namespace Filter

/-- The filter as it stands in a query. -/
def text (f : Filter) : String :=
  (f.kind.expr f.name).text

/-- The row of a filter. -/
def row (f : Filter) : List String :=
  [f.kind.name, f.name, f.text]

/-- The line of a filter. It is echoed, so that a code in the name is lost. -/
def line (f : Filter) : String :=
  echoed f.text

end Filter

/-- **What filters are listed, and how.** -/
structure FiltersRequest where
  /-- The only kind that is listed, if there is one. -/
  only : Option FilterKind := none
  /-- Whether they are listed plainly. -/
  plain : Bool := false
  deriving DecidableEq, Repr, Inhabited

/-! ### Reading the command line -/

/-- The options of the command. -/
inductive FiltersOption
  /-- Tags only. -/
  | tags
  /-- Folders only. -/
  | folders
  /-- A plain list. -/
  | plain
  /-- What the command does. -/
  | help
  deriving DecidableEq, Repr, Inhabited

/-- The options of the command, as they are given. -/
def filtersSpecs : List (OptionSpec FiltersOption) := [
  ⟨.tags, ["--tags"], false⟩,
  ⟨.folders, ["--folders"], false⟩,
  ⟨.plain, ["--plain"], false⟩,
  ⟨.help, ["--help"], false⟩]

/-- How the command is used. -/
def filtersUsage : String := "Usage: notez filters [OPTIONS]\n"

namespace FiltersRequest

/-- **What a command line asks for**; nothing when it asks how the command is used. -/
def ofWords (words : List String) : Except UsageFault (Option FiltersRequest) := do
  let g ← readCommandLine filtersSpecs true words
  if g.has .help then return none
  else do
    g.refuseOperands
    return some {
      only := (g.lastOf? [.tags, .folders]).map fun key => if key = .tags then .tag else .folder
      plain := g.has .plain }

/-! ### The list -/

/-- The kinds that are listed. -/
def kinds (r : FiltersRequest) : List FilterKind :=
  match r.only with
  | some kind => [kind]
  | none => [.tag, .folder]

/-- **The filters that are listed.** -/
def filters (r : FiltersRequest) (s : Store) : List Filter :=
  r.kinds.flatMap fun kind => (kind.namesIn s).map fun name => ⟨kind, name⟩

/-- The columns of a table of filters. -/
def columns : List Column := [
  ⟨"Kind", .left, false, "none"⟩,
  ⟨"Name", .left, true, "none"⟩,
  ⟨"Filter", .left, true, "none"⟩]

/-- **What is printed for the filters that there are.** -/
def printFilters (s : Settings) (r : FiltersRequest) (filters : List Filter) :
    Except Breakdown (List Print) :=
  if r.plain then .ok [.out (String.join (filters.map Filter.line))]
  else if filters.isEmpty then
    if s.quiet then .ok [] else do return [← tell "No tags or folders yet"]
  else do
    let table ← (tableOfMarkup false columns (filters.map Filter.row)).mapError .markup
    return [.out table]

/-- How the run ends for the filters that there are. -/
def report (s : Settings) (r : FiltersRequest) (filters : List Filter) (t : Tree) :
    Except Breakdown Outcome :=
  return ⟨exitSuccess, ← r.printFilters s filters, t⟩

/-- **Answering a request for filters.** -/
def run (s : Settings) (r : FiltersRequest) (t : Tree) : Except Breakdown Outcome :=
  s.withDatabase t r.filters (r.report s)

end FiltersRequest

/-- **The filters command.** -/
def filtersCommand (s : Settings) (words : List String) (t : Tree) : Except Breakdown Outcome := do
  match ← (FiltersRequest.ofWords words).mapError .usage with
  | none => return ⟨exitSuccess, [.out filtersUsage], t⟩
  | some r => r.run s t

end NoteSearch.Command
