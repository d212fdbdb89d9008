import NoteSearch.Command.Program

/-!
# The files of a run

A run looks at few files: the settings, the database, and the file that it is to write. Which they are
follows from the command line and, for the database, from the settings; so the files of a run can be fetched
before it starts.
-/

namespace NoteSearch.Command

/-- The files that the options of a command name. -/
def filesOfCommand : List String → List String
  | "init-config" :: words =>
    match readCommandLine initSpecs true words with
    | .ok g => g.all .output
    | .error _ => []
  | _ => []

/-- The files that a command line names. -/
def filesNamed (words : List String) : List String :=
  match readCommandLine programSpecs false words with
  | .ok g => g.all .config ++ g.all .database ++ filesOfCommand g.operands
  | .error _ => []

/-- The places of paths, as far as they lead anywhere. -/
def placesOf (env : Environment) (paths : List Path) : List (List String) :=
  paths.filterMap fun p =>
    match p.resolve env.surroundings with
    | .ok p => some p.names
    | .error _ => none

/-- **The places that a command line leads to**: the usual settings, and the files that it names. -/
def placesNamed (env : Environment) (words : List String) : List (List String) :=
  placesOf env (Config.defaultPath env.surroundings :: (filesNamed words).map Path.ofText)

/-- The settings that a command line asks for. -/
def configNamed (env : Environment) (t : Tree) (words : List String) : Option Config :=
  match readCommandLine programSpecs false words with
  | .ok g =>
    match Config.load env.surroundings t ((g.last? .config).map Path.ofText) with
    | .ok (c, _) => some c
    | .error _ => none
  | .error _ => none

/-- **The place of the database in the settings**, once the settings have been fetched. -/
def databasePlaces (env : Environment) (t : Tree) (words : List String) : List (List String) :=
  placesOf env ((configNamed env t words).toList.map (·.database))

/-- **The entries that a run has changed**, or added to the file tree. -/
def changes (before after : Tree) : List (List String × Entry) :=
  after.entries.filter fun e => before.get? e.1 != some e.2

end NoteSearch.Command
