import NoteSearch.Config.Value
import NoteSearch.File.Tree
import NoteSearch.Query.Chip
import NoteSearch.Snippet.Basic
import NoteSearch.Text.Infix
import NoteSearch.Text.Lowercase

/-!
# Settings

What a user can set: where the notes are, whether output is colored, how long previews are, how chips are
joined, and how many results are listed. Settings come from a document whose entries are optional and
stand in three sections; whatever is missing has a default. An entry of a wrong type is a fault, and so is
a value that is out of range, but the latter is looked for only when the whole document has been read.

`NoteSearch.Config.ofDocument` reads a document, `NoteSearch.Config.validate` checks what was read and
makes the path of the database absolute.
-/

namespace NoteSearch

/-- **Settings.** -/
structure Config where
  /-- Where the notes are. -/
  database : Path
  /-- Whether output is colored. -/
  colored : Bool := true
  /-- How many characters a preview has at most. -/
  snippetLength : Int := Snippet.defaultLength
  /-- The spelling of the operator that joins chips. -/
  chipLogic : String := "and"
  /-- How many results are listed at most. -/
  searchLimit : Option Int := none
  /-- The file that the settings come from. -/
  source : Option Path := none
  deriving DecidableEq, Repr, Inhabited

namespace Config

/-- **The reason why there are no settings.** -/
inductive Fault
  /-- The file is not TOML. -/
  | unreadable (path : String)
  /-- A whole number in the file has too many digits. -/
  | numberTooLong
  /-- An entry has a value that it must not have. -/
  | invalid (key reason : String)
  /-- Something stands in the place of a section that has no entries. -/
  | notASection
  /-- A path leads nowhere. -/
  | badPath (fault : PathFault)
  /-- A file cannot be read or written. -/
  | badFile (fault : FileFault)
  /-- The file does not hold a text. -/
  | notText
  deriving DecidableEq, Repr, Inhabited

namespace Fault

/-- What the user is told, where the fault lies in the settings. -/
def message? : Fault → Option String
  | unreadable path => some ("Invalid config at " ++ path ++ ": not a TOML document")
  | invalid key reason => some ("Invalid config value for '" ++ key ++ "': " ++ reason)
  | _ => none

end Fault

/-- The file that settings are read from when no other is named. -/
def defaultPath (env : Surroundings) : Path :=
  (Path.ofText env.home).join ⟨.here, [".config", "notez", "config.toml"]⟩

/-- Where the notes are when nothing is set. -/
def defaultDatabase (env : Surroundings) : Path :=
  (Path.ofText env.home).join ⟨.here, [".local", "share", "notez", "notez.db"]⟩

/-- The settings when nothing is set. -/
def default (env : Surroundings) (source : Option Path) : Config where
  database := defaultDatabase env
  source := source

/-! ### Reading a document -/

/-- Whether a text contains a key as a part. -/
def mentionsKey (s : String) (key : String) : Bool :=
  Text.hasInfix key.toList s.toList

/-- The entries of a section of which the given keys are looked up. A text or a list in its place has no
entries, and is a fault only where it would seem to have one of the keys: where the key is a part of the
text, or a member of the list. Any other value in its place is a fault. -/
def sectionOf (document : Table) (name : String) (keys : List String) : Except Fault Table :=
  match Table.get? document name with
  | none => .ok []
  | some (.table t) => .ok t
  | some (.text s) => if keys.any (mentionsKey s) then .error .notASection else .ok []
  | some (.list vs) =>
    if keys.any fun k => vs.any fun v => match v with
      | .text s => s == k
      | _ => false
    then .error .notASection else .ok []
  | some _ => .error .notASection

/-- The value of an entry of a section, read by a reader for its type; the default when there is no such
entry. -/
def entryOr (default : α) (entries : Table) (sectionName key reason : String)
    (read? : Value → Option α) : Except Fault α :=
  match Table.get? entries key with
  | none => .ok default
  | some v =>
    match read? v with
    | some a => .ok a
    | none => .error (.invalid (sectionName ++ "." ++ key) reason)

/-- The text that a value is. -/
def text? : Value → Option String
  | .text s => some s
  | _ => none

/-- The truth value that a value is. -/
def boolean? : Value → Option Bool
  | .boolean b => some b
  | _ => none

/-- The whole number that a value is. -/
def integer? : Value → Option Int
  | .integer n => some n
  | _ => none

/-- The limit that a value sets; zero sets none. -/
def limit? : Value → Option (Option Int)
  | .integer n => if n < 0 then none else some (if n = 0 then none else some n)
  | _ => none

/-- **Reading a document.** -/
def ofDocument (env : Surroundings) (source : Path) (document : Table) : Except Fault Config := do
  let base := default env (some source)
  let paths ← sectionOf document "paths" ["database"]
  let database ← entryOr base.database paths "paths" "database" "must be a string path"
    fun v => (text? v).map Path.ofText
  let display ← sectionOf document "display" ["colored_output", "snippet_length"]
  let colored ← entryOr base.colored display "display" "colored_output" "must be a boolean" boolean?
  let snippetLength ←
    entryOr base.snippetLength display "display" "snippet_length" "must be an integer" integer?
  let search ← sectionOf document "search" ["chip_logic", "limit"]
  let chipLogic ← entryOr base.chipLogic search "search" "chip_logic" "must be a string"
    fun v => (text? v).map Text.lowercase
  let searchLimit ←
    entryOr base.searchLimit search "search" "limit" "must be a non-negative integer" limit?
  return { base with database, colored, snippetLength, chipLogic, searchLimit }

/-! ### Validation -/

/-- A message that is no fault. -/
inductive Warning
  /-- There is no file of settings at this path. -/
  | noFile (path : String)
  /-- There is no database at this path yet. -/
  | noDatabase (path : String)
  deriving DecidableEq, Repr, Inhabited

namespace Warning

/-- What the user is told. -/
def message : Warning → String
  | noFile path =>
    "No config file found at " ++ path
      ++ ". Using defaults. Create config with: notez init-config"
  | noDatabase path => "Notes database not found: " ++ path

/-- Whether the warning is about the database. -/
def isAboutDatabase : Warning → Bool
  | noDatabase _ => true
  | noFile _ => false

end Warning

/-- **Checking settings**: the path of the database is made absolute, and the values have to be in
range. That there is no database yet is worth a warning. -/
def validate (env : Surroundings) (t : Tree) (c : Config) : Except Fault (Config × List Warning) := do
  let database ← (c.database.resolve env).mapError .badPath
  if (Junction.ofName? c.chipLogic).isNone then
    .error (.invalid "search.chip_logic" "must be 'and' or 'or'")
  else if c.snippetLength ≤ 0 then
    .error (.invalid "display.snippet_length" "must be positive")
  else do
    let isThere ← (t.hasEntry env.here database).mapError .badFile
    return ({ c with database }, if isThere then [] else [.noDatabase database.text])

/-- The operator that joins chips. -/
def junction (c : Config) : Junction :=
  (Junction.ofName? c.chipLogic).getD .and

end Config

end NoteSearch
