import NoteSearch.Command.Filters
import NoteSearch.Command.Init
import NoteSearch.Command.Search
import NoteSearch.Config.File

/-!
# The program

The program has options of its own, which come before the name of a command: where the settings and the
notes are, and how much is printed, and in what way. Then it hands the rest of the command line to the
command.

Faults are found in this order: in the program's own options, in the name of the command, in the settings,
in the options of the command, and in what the command does.
-/

namespace NoteSearch.Command

/-! ### The program's own options -/

/-- The options of the program. -/
inductive ProgramOption
  /-- The file of settings. -/
  | config
  /-- The database. -/
  | database
  /-- No colors. -/
  | noColor
  /-- The number of matches is printed. -/
  | verbose
  /-- Searches are logged, and the number of matches is printed. -/
  | debug
  /-- Only results and errors are printed. -/
  | quiet
  /-- Tables are shown page by page. -/
  | pager
  /-- Tables are not shown page by page. -/
  | noPager
  /-- The version of the program. -/
  | version
  /-- What the program does. -/
  | help
  deriving DecidableEq, Repr, Inhabited

/-- The spellings of the option for the file of settings. -/
def configSpellings : List String := ["--config", "-c"]

/-- The spellings of the option for the database. -/
def databaseSpellings : List String := ["--database", "-d"]

/-- The options of the program, as they are given. -/
def programSpecs : List (OptionSpec ProgramOption) := [
  ⟨.config, configSpellings, true⟩,
  ⟨.database, databaseSpellings, true⟩,
  ⟨.noColor, ["--no-color"], false⟩,
  ⟨.verbose, ["--verbose", "-v"], false⟩,
  ⟨.debug, ["--debug"], false⟩,
  ⟨.quiet, ["--quiet", "-q"], false⟩,
  ⟨.pager, ["--pager"], false⟩,
  ⟨.noPager, ["--no-pager"], false⟩,
  ⟨.version, ["--version"], false⟩,
  ⟨.help, ["--help"], false⟩]

/-- The version of the program. -/
def versionText : String := "notez, version 0.3.0\n"

/-- How the program is used. -/
def programUsage : String := "Usage: notez [OPTIONS] COMMAND [ARGS]...\n"

/-- What an option prints instead of running a command. -/
def insteadText? : ProgramOption → Option String
  | .version => some versionText
  | .help => some programUsage
  | _ => none

/-- A file of an option must not be a directory. -/
def checkFile (env : Environment) (t : Tree) (spellings : List String) (value : String) :
    Except Breakdown Unit :=
  if (Path.ofText value).hasNul then .error (.path .embeddedNul)
  else if value != "" && t.hasDirectory env.surroundings.here (Path.ofText value) then
    .error (.usage (.badValue spellings ("File " ++ Text.quoted value ++ " is a directory.")))
  else .ok ()

/-- Whether an option of the program can have a value. -/
def checkProgramOption (env : Environment) (t : Tree) :
    ProgramOption → String → Except Breakdown Unit
  | .config, value => checkFile env t configSpellings value
  | .database, value => checkFile env t databaseSpellings value
  | _, _ => .ok ()

/-- **What the start of a command line says.** -/
inductive Opening
  /-- The run is over, and this is printed. -/
  | instead (text : String)
  /-- The options, and the words from the name of the command on. -/
  | given (g : Given ProgramOption)

/-- Reading the start of a command line. -/
def readOpening (env : Environment) (t : Tree) (words : List String) : Except Breakdown Opening := do
  let g ← (readCommandLine programSpecs false words).mapError .usage
  match g.options.findSome? fun o => insteadText? o.1 with
  | some text => return .instead text
  | none =>
    g.examine (checkProgramOption env t)
    return .given g

/-! ### Commands -/

/-- **What a command does**, given its settings, its words, and the file tree. -/
def Action : Type :=
  Settings → List String → Tree → Except Breakdown Outcome

/-- The commands by name. -/
def commands : List (String × Action) := [
  ("filters", filtersCommand),
  ("init-config", initCommand),
  ("search", searchCommand)]

/-! ### Settings -/

/-- The settings with the database that the command line names. Whether the other one is there is then no
longer worth a warning. -/
def chooseDatabase (env : Environment) (named : Option String) (c : Config)
    (warnings : List Config.Warning) : Except Breakdown (Config × List Config.Warning) :=
  match named with
  | none => .ok (c, warnings)
  | some name => do
    let database ← ((Path.ofText name).resolve env.surroundings).mapError .path
    return ({ c with database }, warnings.filter (!·.isAboutDatabase))

/-- What a command is told. -/
def settingsFor (env : Environment) (g : Given ProgramOption) (c : Config) : Settings where
  config := c
  quiet := g.has .quiet
  verbose := g.has .verbose || g.has .debug
  colored := !(g.has .noColor || env.noColor) && c.colored
  paging := g.lastOf? [.pager, .noPager] == some .pager
  pager := env.pager
  surroundings := env.surroundings

/-- The run that ends because there are no settings. -/
def refuseConfig (t : Tree) (fault : Config.Fault) : Except Breakdown Outcome :=
  match fault.message? with
  | some message =>
    refuseWithAdvice exitRefused message "Fix the config file or pass --config" t
  | none => .error (.config fault)

/-- **Running a command** with the settings that the options of the program lead to. -/
def runCommand (env : Environment) (t : Tree) (g : Given ProgramOption) (action : Action)
    (words : List String) : Except Breakdown Outcome :=
  match Config.load env.surroundings t ((g.last? .config).map Path.ofText) with
  | .error fault => refuseConfig t fault
  | .ok (c, warnings) => do
    let (c, warnings) ← chooseDatabase env (g.last? .database) c warnings
    let warned ← (if g.has .quiet then [] else warnings).mapM fun w => warn w.message
    let o ← action (settingsFor env g c) words t
    return { o with prints := warned ++ o.prints }

/-! ### The program -/

/-- The run that ends because there is no command of a name. A name that looks like an option is read once
more as one, and is refused only when nothing else comes of that. -/
def refuseName (env : Environment) (t : Tree) (name : String) (words : List String) :
    Except Breakdown Outcome := do
  let opening ← if isOptionWord name then readOpening env t (name :: words)
    else .ok (.given {})
  match opening with
  | .instead text => return ⟨exitSuccess, [.out text], t⟩
  | .given _ => .error (.usage (.noSuchCommand name))

/-- **Running the program** on the words of a command line. -/
def run (env : Environment) (t : Tree) (words : List String) : Except Breakdown Outcome := do
  match ← readOpening env t words with
  | .instead text => return ⟨exitSuccess, [.out text], t⟩
  | .given g =>
    match g.operands with
    | [] => .error (.usage .missingCommand)
    | name :: words =>
      match commands.lookup name with
      | some action => runCommand env t g action words
      | none => refuseName env t name words

end NoteSearch.Command
