import NoteSearch.Text.Split

/-!
# Paths

A path is a sequence of names, and starts at the root of the file tree or where the program runs. Empty
names and the name `.` lead nowhere and are dropped when a path is read; `..` is kept, since the directory
above a name need not be the one before it in the path. Two slashes at the start, and no more than two,
are kept apart from one.

Before a configured path is used it is made absolute, and every `..` in it is taken back
(`NoteSearch.Path.resolve`). A `~` at its start stands for a home directory.
-/

namespace NoteSearch

/-- Where a path starts. -/
inductive Start
  /-- Where the program runs. -/
  | here
  /-- At the root of the file tree. -/
  | root
  /-- At the root, with two slashes. -/
  | doubleRoot
  deriving DecidableEq, Repr, Inhabited

/-- **A path.** -/
structure Path where
  /-- Where it starts. -/
  start : Start
  /-- The names that it leads through. -/
  names : List String
  deriving DecidableEq, Repr, Inhabited

namespace Path

/-- Where a path of the given characters starts. -/
def startOf : List Char → Start
  | '/' :: '/' :: '/' :: _ => .root
  | '/' :: '/' :: _ => .doubleRoot
  | '/' :: _ => .root
  | _ => .here

/-- **The path that a text spells.** -/
def ofText (s : String) : Path where
  start := startOf s.toList
  names := ((Text.splitAt (· == '/') s.toList).filter fun n => n != [] && n != ['.']).map String.ofList

/-- What a path starts with when it is written. -/
def startText : Start → String
  | .here => ""
  | .root => "/"
  | .doubleRoot => "//"

/-- **The text of a path.** -/
def text (p : Path) : String :=
  if p.start = .here && p.names.isEmpty then "."
  else startText p.start ++ String.intercalate "/" p.names

/-- The path to a name below a path. -/
def child (p : Path) (name : String) : Path :=
  { p with names := p.names ++ [name] }

/-- A path followed by another; one that starts at the root stands for itself. -/
def join (p q : Path) : Path :=
  match q.start with
  | .here => { p with names := p.names ++ q.names }
  | _ => q

/-- The path without its last name. -/
def parent (p : Path) : Path :=
  { p with names := p.names.dropLast }

/-! ### Absolute paths -/

/-- The names of a path from the root, with every `..` taken back; above the root there is only the
root. `back` are the names passed so far, the latest first. -/
def normalNames (back : List String) : List String → List String
  | [] => back.reverse
  | n :: ns => if n == ".." then normalNames (back.drop 1) ns else normalNames (n :: back) ns

/-- The path from the root that a path leads along, when it is followed from the directory `here`, with
every `..` taken back. -/
def normal (here : List String) (p : Path) : List String :=
  match p.start with
  | .here => normalNames here.reverse p.names
  | _ => normalNames [] p.names

/-- The path from the root through the given names. -/
def absolute (names : List String) : Path :=
  ⟨.root, names⟩

end Path

/-- **What a path depends on besides the file tree.** -/
structure Surroundings where
  /-- The directory in which the program runs. -/
  here : List String
  /-- The home directory of the user. -/
  home : String
  /-- The home directories of all users who have one, by name. -/
  homes : List (String × String)
  deriving Repr, Inhabited

/-- **The reason why a path leads nowhere.** -/
inductive PathFault
  /-- It starts with `~` and the name of nobody. -/
  | noHome
  /-- There is a NUL character in it. -/
  | embeddedNul
  /-- A name in it, or the path as a whole, is too long. -/
  | tooLong
  deriving DecidableEq, Repr, Inhabited

namespace Path

/-- The home directory that a name after `~` stands for; the empty name stands for the user. -/
def homeOf? (env : Surroundings) (name : String) : Option String :=
  if name == "" then some env.home else env.homes.lookup name

/-- The path with a `~` at its start replaced by the home directory that it stands for. -/
def expandHome (env : Surroundings) (p : Path) : Except PathFault Path :=
  match p.start, p.names with
  | .here, n :: ns =>
    match n.toList with
    | '~' :: name =>
      match homeOf? env (String.ofList name) with
      | some home => .ok { ofText home with names := (ofText home).names ++ ns }
      | none => .error .noHome
    | _ => .ok p
  | _, _ => .ok p

/-- Whether some name of a path has a NUL character in it. -/
def hasNul (p : Path) : Bool :=
  p.names.any fun n => n.toList.contains '\x00'

/-- **The absolute path that a configured path stands for.** -/
def resolve (env : Surroundings) (p : Path) : Except PathFault Path := do
  let p ← p.expandHome env
  if p.hasNul then .error .embeddedNul
  else return absolute (p.normal env.here)

end Path

end NoteSearch
