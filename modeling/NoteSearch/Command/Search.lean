import NoteSearch.Command.Pager
import NoteSearch.Console.Echo
import NoteSearch.Console.Json
import NoteSearch.Console.Table
import NoteSearch.Search.Bound
import NoteSearch.Search.Session
import NoteSearch.Text.Decimal
import NoteSearch.Text.Digit

/-!
# The search command

The notes that are looked for are named by a query, whose words are joined by spaces, or by chips, which
options give one by one; both at once make no sense. A search for nothing in particular lists all notes.
Results are a table, JSON, or the numbers of the notes, one on each line.

`NoteSearch.Command.SearchRequest.ofWords` reads what is asked for, and
`NoteSearch.Command.SearchRequest.run` answers it.
-/

namespace NoteSearch.Command

open Text Console

/-- **How results are printed.** -/
inductive Format
  /-- A table for people. -/
  | table
  /-- JSON for programs. -/
  | json
  /-- The numbers of the notes. -/
  | ids
  deriving DecidableEq, Repr, Inhabited

namespace Format

/-- The spelling of a format. -/
def name : Format → String
  | table => "table"
  | json => "json"
  | ids => "ids"

/-- All formats. -/
def all : List Format :=
  [table, json, ids]

/-- The format of a spelling. -/
def ofName? (s : String) : Option Format :=
  all.find? (·.name == s)

end Format

/-- **What is searched for, and how it is printed.** -/
structure SearchRequest where
  /-- The words of the query. -/
  words : List String := []
  /-- The tags that a note is to have. -/
  tags : List String := []
  /-- The folders that a note is to be in. -/
  folders : List String := []
  /-- The tags that a note must not have. -/
  excludedTags : List String := []
  /-- The folders that a note must not be in. -/
  excludedFolders : List String := []
  /-- Whether a note is to be pinned, if that matters. -/
  pinned : Option Bool := none
  /-- Whether one chip is enough. -/
  any : Bool := false
  /-- How results are printed. -/
  format : Format := .table
  /-- How many notes are printed at most. -/
  limit : Option Nat := none
  /-- Whether the query is printed in its canonical form. -/
  showQuery : Bool := false
  deriving DecidableEq, Repr, Inhabited

/-! ### Reading the command line -/

/-- The options of the command. -/
inductive SearchOption
  /-- A tag. -/
  | tag
  /-- A folder. -/
  | folder
  /-- A tag to be left out. -/
  | excludeTag
  /-- A folder to be left out. -/
  | excludeFolder
  /-- Pinned notes only. -/
  | pinned
  /-- Notes that are not pinned only. -/
  | unpinned
  /-- One chip is enough. -/
  | any
  /-- How results are printed. -/
  | format
  /-- How many notes are printed at most. -/
  | limit
  /-- The query is printed. -/
  | showQuery
  /-- What the command does. -/
  | help
  deriving DecidableEq, Repr, Inhabited

/-- The spellings of the option for a format. -/
def formatSpellings : List String := ["--format", "-f"]

/-- The spellings of the option for a limit. -/
def limitSpellings : List String := ["--limit", "-l"]

/-- The options of the command, as they are given. -/
def searchSpecs : List (OptionSpec SearchOption) := [
  ⟨.tag, ["--tag", "-t"], true⟩,
  ⟨.folder, ["--folder", "-F"], true⟩,
  ⟨.excludeTag, ["--exclude-tag"], true⟩,
  ⟨.excludeFolder, ["--exclude-folder"], true⟩,
  ⟨.pinned, ["--pinned"], false⟩,
  ⟨.unpinned, ["--unpinned"], false⟩,
  ⟨.any, ["--any"], false⟩,
  ⟨.format, formatSpellings, true⟩,
  ⟨.limit, limitSpellings, true⟩,
  ⟨.showQuery, ["--show-query"], false⟩,
  ⟨.help, ["--help"], false⟩]

/-- How the command is used. -/
def searchUsage : String := "Usage: notez search [OPTIONS] [QUERY]...\n"

/-- The format that a value names. -/
def readFormat (value : String) : Except UsageFault Format :=
  match Format.ofName? value with
  | some f => .ok f
  | none =>
    .error (.badValue formatSpellings
      (quoted value ++ " is not one of "
        ++ String.intercalate ", " (Format.all.map fun f => quoted f.name) ++ "."))

/-- The limit that a value sets. -/
def readLimit (value : String) : Except UsageFault Nat :=
  match readInt? value with
  | none => .error (.badValue limitSpellings (quoted value ++ " is not a valid integer range."))
  | some (.ofNat (n + 1)) => .ok (n + 1)
  | some (.ofNat 0) => .error (.badValue limitSpellings "0 is not in the range x>=1.")
  | some (.negSucc n) =>
    .error (.badValue limitSpellings
      ("-" ++ String.ofList (numeral (n + 1)) ++ " is not in the range x>=1."))

/-- Whether an option can have a value. -/
def checkSearchOption : SearchOption → String → Except UsageFault Unit
  | .format, value => (readFormat value).map fun _ => ()
  | .limit, value => (readLimit value).map fun _ => ()
  | _, _ => .ok ()

namespace SearchRequest

/-- What a command line that has been read asks for. -/
def ofGiven (g : Given SearchOption) : Except UsageFault SearchRequest := do
  g.examine checkSearchOption
  return {
    words := g.operands
    tags := g.all .tag
    folders := g.all .folder
    excludedTags := g.all .excludeTag
    excludedFolders := g.all .excludeFolder
    pinned := (g.lastOf? [.pinned, .unpinned]).map (· == .pinned)
    any := g.has .any
    format := ← ((g.last? .format).mapM readFormat).map (·.getD .table)
    limit := ← (g.last? .limit).mapM readLimit
    showQuery := g.has .showQuery }

/-- **What a command line asks for**; nothing when it asks how the command is used. -/
def ofWords (words : List String) : Except UsageFault (Option SearchRequest) := do
  let g ← readCommandLine searchSpecs true words
  if g.has .help then return none else return some (← ofGiven g)

/-! ### The search -/

/-- The query. -/
def query (r : SearchRequest) : String :=
  String.intercalate " " r.words

/-- **The chips**, in the order of the options. -/
def chips (r : SearchRequest) : Except ChipFault (List Chip) := do
  let tags ← r.tags.mapM fun name => Chip.make .tag name false
  let folders ← r.folders.mapM fun name => Chip.make .folder name false
  let excludedTags ← r.excludedTags.mapM fun name => Chip.make .tag name true
  let excludedFolders ← r.excludedFolders.mapM fun name => Chip.make .folder name true
  let pinned := r.pinned.toList.map fun flag => Chip.ofPinned flag false
  return tags ++ folders ++ excludedTags ++ excludedFolders ++ pinned

/-- The session that makes the search, in text mode unless the query is blank. -/
def session (c : Config) (r : SearchRequest) (chips : List Chip) : Session where
  mode := if isBlankText r.query then .visual else .text
  query := r.query
  chips := chips
  junction := if r.any then .or else c.junction

/-- The greatest number of notes that are printed. -/
def maxNotes (c : Config) (r : SearchRequest) : Option Nat :=
  match r.limit with
  | some n => some n
  | none => c.searchLimit.map Int.toNat

/-- The notes that are printed. -/
def listed (c : Config) (r : SearchRequest) (notes : List NoteView) : List NoteView :=
  match r.maxNotes c with
  | some n => notes.take n
  | none => notes

end SearchRequest

/-! ### Printing results -/

/-- A text, or another one in place of the empty text. -/
def orIfEmpty (s fallback : String) : String :=
  if s == "" then fallback else s

/-- **The names of tags as they are listed**: without regard to case. -/
def listedTags (names : List String) : List String :=
  names.mergeSort fun a b => lowercase a ≤ lowercase b

/-- The mark of a pinned note. -/
def pinnedMark : String := "●"

/-- The columns of a table of notes. -/
def noteColumns : List Column := [
  ⟨pinnedMark, .middle, false, "note.pinned"⟩,
  ⟨"Title", .left, false, "note.title"⟩,
  ⟨"Folder", .left, false, "note.folder"⟩,
  ⟨"Tags", .left, true, "note.tags"⟩,
  ⟨"Modified", .right, false, "none"⟩,
  ⟨"Snippet", .left, true, "note.snippet"⟩]

/-- The row of a note. -/
def noteRow (snippetLength : Int) (n : NoteView) : List String := [
  if n.pinned then pinnedMark else "",
  orIfEmpty n.title "(untitled)",
  n.folder.getD "",
  String.intercalate ", " (listedTags n.tags),
  n.modified.shortText,
  n.preview snippetLength]

/-- A note as JSON. -/
def noteJson (snippetLength : Int) (n : NoteView) : Json :=
  .record [
    ("id", .nat n.id),
    ("title", .text n.title),
    ("folder", n.folder.elim .null .text),
    ("tags", .list ((listedTags n.tags).map .text)),
    ("pinned", .bool n.pinned),
    ("created_at", .text n.created.text),
    ("modified_at", .text n.modified.text),
    ("snippet", .text (n.preview snippetLength))]

/-- The line of a note that shows nothing but its number. -/
def idLine (n : NoteView) : String :=
  echoed (String.ofList (numeral n.id))

/-- **What is printed for the notes that are found.** -/
def printNotes (s : Settings) (format : Format) (canonical : String) (notes : List NoteView) :
    Except Breakdown (List Print) :=
  match format with
  | .ids => .ok [.out (String.join (notes.map idLine))]
  | .json => .ok [.out (echoed (Json.list (notes.map (noteJson s.config.snippetLength))).print)]
  | .table => do
    let heading ← tell
      ("Search: " ++ orIfEmpty canonical "all notes" ++ " ("
        ++ String.ofList (numeral notes.length) ++ " results)")
    let rows := notes.map (noteRow s.config.snippetLength)
    let table ← (tableOfMarkup s.colored noteColumns rows).mapError .markup
    return [heading, ← showTable s table]

namespace SearchRequest

/-- The canonical form of the query, where it is wanted. -/
def printQuery (r : SearchRequest) (canonical : String) : Except Breakdown (List Print) :=
  if r.showQuery && canonical != "" then do
    return [.out (← printed ("[query]" ++ canonical ++ "[/query]"))]
  else .ok []

/-- The number of matches, where it is wanted. -/
def printCount (s : Settings) (matched : Nat) : Except Breakdown (List Print) :=
  if s.verbose then do return [← tell (String.ofList (numeral matched) ++ " notes matched")]
  else .ok []

/-- What is printed when no notes are listed. -/
def printNothing (s : Settings) (r : SearchRequest) (canonical : String) :
    Except Breakdown (List Print) :=
  if r.format = .table && !s.quiet then do
    return [← tell ("No results for: " ++ orIfEmpty (orIfEmpty canonical r.query) "(all notes)")]
  else .ok []

/-- What is printed for the notes that are listed, if there are any. -/
def printListed (s : Settings) (r : SearchRequest) (canonical : String) (notes : List NoteView) :
    Except Breakdown (List Print) :=
  if notes.isEmpty then r.printNothing s canonical else printNotes s r.format canonical notes

/-- **How the run ends after the session has searched.** -/
def report (s : Settings) (r : SearchRequest) (session : Session) (t : Tree) :
    Except Breakdown Outcome :=
  match session.syntaxMessage, session.sourceMessage with
  | some message, _ => refuse exitRefused (message ++ ": " ++ r.query) t
  | none, some message =>
    refuse exitDatabase ("Database error: " ++ message ++ (session.expr.map Expr.boundNote).getD "") t
  | none, none => do
    let canonical := (session.expr.map Expr.text).getD ""
    let query ← r.printQuery canonical
    let count ← printCount s session.results.length
    let notes ← r.printListed s canonical (r.listed s.config session.results)
    return ⟨exitSuccess, query ++ count ++ notes, t⟩

/-- **Answering a search request.** -/
def run (s : Settings) (r : SearchRequest) (t : Tree) : Except Breakdown Outcome :=
  match r.chips with
  | .error fault => refuse exitRefused ("Invalid filter: " ++ fault.message) t
  | .ok chips =>
    if !isBlankText r.query && !chips.isEmpty then
      refuse exitRefused "Use either a QUERY or chip options, not both" t
    else
      s.withDatabase t (fun store => ((r.session s.config chips).search ⟨.holding store, none⟩).1)
        (r.report s)

end SearchRequest

/-- **The search command.** -/
def searchCommand (s : Settings) (words : List String) (t : Tree) : Except Breakdown Outcome := do
  match ← (SearchRequest.ofWords words).mapError .usage with
  | none => return ⟨exitSuccess, [.out searchUsage], t⟩
  | some r => r.run s t

end NoteSearch.Command
