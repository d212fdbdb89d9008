import NoteSearch.Config.Basic
import NoteSearch.Toml.Write

/-!
# The file of settings

Settings are kept in a TOML file. Where there is no file, the defaults apply, with a warning. A file that
is written has an entry for the database and for colors, and for everything else that is not as it would
be without an entry.
-/

namespace NoteSearch.Config

/-- **Loading settings** from a file, or from the usual place. -/
def load (env : Surroundings) (t : Tree) (path : Option Path) :
    Except Fault (Config × List Warning) := do
  let path ← ((path.getD (defaultPath env)).resolve env).mapError .badPath
  match t.look env.here path with
  | .tooLong => .error (.badFile (.nameTooLong path.text))
  | .absent | .blocked =>
    let (c, warnings) ← validate env t (default env none)
    return (c, .noFile path.text :: warnings)
  | .found _ .directory => .error (.badFile (.isADirectory path.text))
  | .found _ (.database _) => .error .notText
  | .found _ (.text content) =>
    match Toml.read content with
    | .error .malformed => .error (.unreadable path.text)
    | .error .numberTooLong => .error .numberTooLong
    | .ok document => validate env t (← ofDocument env path document)

/-- **The text of a file of settings.** -/
def document (c : Config) : String :=
  let paths := [("database", Toml.writeText c.database.text)]
  let display := [("colored_output", Toml.writeBoolean c.colored)]
    ++ if c.snippetLength = Snippet.defaultLength then []
      else [("snippet_length", Toml.writeInteger c.snippetLength)]
  let search := (if c.chipLogic = "and" then [] else [("chip_logic", Toml.writeText c.chipLogic)])
    ++ match c.searchLimit with
      | none => []
      | some n => [("limit", Toml.writeInteger n)]
  Toml.writeTables
    ([("paths", paths), ("display", display)]
      ++ if search.isEmpty then [] else [("search", search)])

/-- Whether all numbers that are written have few enough digits. -/
def canBeWritten (c : Config) : Bool :=
  (c.snippetLength = Snippet.defaultLength || Toml.isWritable c.snippetLength)
    && c.searchLimit.all Toml.isWritable

/-- **Saving settings** to a file, to the file that they come from, or to the usual place: the file that
was written, and the tree afterwards. A number with too many digits is found only when the file is being
written. -/
def save (env : Surroundings) (t : Tree) (c : Config) (path : Option Path) :
    Except Fault (Path × Tree) := do
  let path ← (((path <|> c.source).getD (defaultPath env)).resolve env).mapError .badPath
  let t ← (t.makeDirectory env.here path.parent).mapError .badFile
  let t ← (t.write env.here path c.document).mapError .badFile
  if c.canBeWritten then return (path, t) else .error .numberTooLong

end NoteSearch.Config
