import NoteSearch.Command.Files
import NoteSearch.Store.Image

/-!
# The command line

The outermost layer: it fetches the files that a run looks at, runs the program on them, prints, and writes
back what the run has changed. It starts no other program, so what is to be shown page by page goes to the
output.
-/

namespace NoteSearch.Shell

/-- The text of a place in the file tree. -/
def placeText (place : List String) : String :=
  (Path.absolute place).text

/-- What is at a place; what cannot be read as a file counts as a directory. -/
def fetchEntry (place : List String) : IO (Option Entry) := do
  try
    return some (.ofBytes (← IO.FS.readBinFile (placeText place)))
  catch
    | .noFileOrDirectory .. => return none
    | _ => return some .directory

/-- The file tree with what is at a place, and with the directories above it. -/
def fetch (t : Tree) (place : List String) : IO Tree :=
  (List.range place.length).foldlM (fun t n => do
    let above := place.take n
    let here := place.take (n + 1)
    if t.get? above == some .directory && (t.get? here).isNone then
      match ← fetchEntry here with
      | some e => return t.put here e
      | none => return t
    else return t) t

/-- Writing back an entry that has changed. -/
def store (place : List String) : Entry → IO Unit
  | .directory => IO.FS.createDirAll (placeText place)
  | .text content => IO.FS.writeFile (placeText place) content
  | .database _ => return ()

/-- Printing. -/
def print : Command.Print → IO Unit
  | .out text => IO.print text
  | .err text => IO.eprint text
  | .paged _ text => IO.print text

/-- What a run depends on. -/
def environment : IO Command.Environment := do
  let here ← IO.FS.realPath "."
  let home ← IO.getEnv "HOME"
  let noColor ← IO.getEnv "NO_COLOR"
  let pager ← IO.getEnv "PAGER"
  return {
    surroundings := { here := (Path.ofText here.toString).names, home := home.getD "/", homes := [] }
    noColor := noColor.isSome
    pager := pager }

/-- Running the program, and doing what it comes to. -/
def run (words : List String) : IO UInt32 := do
  let env ← environment
  let t ← (env.surroundings.here :: Command.placesNamed env words).foldlM fetch ⟨[]⟩
  let t ← (Command.databasePlaces env t words).foldlM fetch t
  match Command.run env t words with
  | .error fault =>
    IO.eprint (Console.echoed ("Error: " ++ fault.message))
    return fault.exit.toUInt32
  | .ok outcome =>
    outcome.prints.forM print
    (Command.changes t outcome.tree).forM fun e => store e.1 e.2
    return outcome.exit.toUInt32

end NoteSearch.Shell

/-- **The program.** -/
def main (words : List String) : IO UInt32 :=
  NoteSearch.Shell.run words
