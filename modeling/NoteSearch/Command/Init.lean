import NoteSearch.Command.Outcome

/-!
# The command that writes a file of settings

A user who wants to change settings starts from a file that names all of them, with their defaults. The
command writes it to the usual place or to another one, makes the directories above it, and leaves a file
that is there already alone, unless it is told otherwise.
-/

namespace NoteSearch.Command

/-- The lines of the file. -/
def sampleLines : List String := [
  "# notez configuration",
  "#",
  "# Default location: ~/.config/notez/config.toml",
  "",
  "[paths]",
  "# SQLite database holding notes, folders and tags",
  "database = \"~/.local/share/notez/notez.db\"",
  "",
  "[display]",
  "# Use colored terminal output (also disabled by NO_COLOR or --no-color)",
  "colored_output = true",
  "",
  "# Maximum length of the body snippet shown in search results",
  "snippet_length = 120",
  "",
  "[search]",
  "# How filter chips are combined: \"and\" or \"or\"",
  "chip_logic = \"and\"",
  "",
  "# Maximum number of results (0 = unlimited)",
  "limit = 0"]

/-- **The text of the file.** -/
def sampleText : String :=
  String.join (sampleLines.map (· ++ "\n"))

/-- **Where the file is written, and whether it may take the place of another.** -/
structure InitRequest where
  /-- Whether a file that is there is replaced. -/
  force : Bool := false
  /-- The file, if it is not at the usual place. -/
  output : Option Path := none
  deriving DecidableEq, Repr, Inhabited

/-! ### Reading the command line -/

/-- The options of the command. -/
inductive InitOption
  /-- A file that is there is replaced. -/
  | force
  /-- The file. -/
  | output
  /-- What the command does. -/
  | help
  deriving DecidableEq, Repr, Inhabited

/-- The options of the command, as they are given. -/
def initSpecs : List (OptionSpec InitOption) := [
  ⟨.force, ["--force", "-f"], false⟩,
  ⟨.output, ["--output", "-o"], true⟩,
  ⟨.help, ["--help"], false⟩]

/-- How the command is used. -/
def initUsage : String := "Usage: notez init-config [OPTIONS]\n"

namespace InitRequest

/-- **What a command line asks for**; nothing when it asks how the command is used. -/
def ofWords (words : List String) : Except UsageFault (Option InitRequest) := do
  let g ← readCommandLine initSpecs true words
  if g.has .help then return none
  else do
    g.refuseOperands
    return some { force := g.has .force, output := (g.last? .output).map Path.ofText }

/-! ### Writing the file -/

/-- The file tree with the file in it. -/
def writeSample (t : Tree) (here : List String) (path : Path) : Except FileFault Tree := do
  (← t.makeDirectory here path.parent).write here path sampleText

/-- What is printed when the file has been written. -/
def printWritten (s : Settings) (path : Path) : Except Breakdown (List Print) := do
  let done : Print := .out (← printed ("[success]Created config file: " ++ path.text ++ "[/success]"))
  if s.quiet then return [done]
  else return [done, ← tell "Edit this file to customize your settings."]

/-- **Answering a request for a file of settings.** -/
def run (s : Settings) (r : InitRequest) (t : Tree) : Except Breakdown Outcome := do
  let here := s.surroundings.here
  let path ← ((r.output.getD (Config.defaultPath s.surroundings)).resolve s.surroundings).mapError .path
  let isThere ← (t.hasEntry here path).mapError .file
  if isThere && !r.force then
    refuseWithAdvice exitRefused ("Config file already exists: " ++ path.text)
      "Use --force to overwrite" t
  else
    match writeSample t here path with
    | .error fault => refuse exitRefused ("Failed to write config file: " ++ fault.message) t
    | .ok t => return ⟨exitSuccess, ← printWritten s path, t⟩

end InitRequest

/-- **The command that writes a file of settings.** -/
def initCommand (s : Settings) (words : List String) (t : Tree) : Except Breakdown Outcome := do
  match ← (InitRequest.ofWords words).mapError .usage with
  | none => return ⟨exitSuccess, [.out initUsage], t⟩
  | some r => r.run s t

end NoteSearch.Command
