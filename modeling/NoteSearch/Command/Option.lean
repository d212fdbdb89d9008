import NoteSearch.Text.Quoted
import NoteSearch.Text.Similar

/-!
# Options on a command line

The words of a command line are options with their values, and operands, which are everything else. An
option has long spellings, with two hyphens, and short ones, with a hyphen and a letter. A long option has
its value after an equals sign or in the next word; short options may share a word, `-qv`, and the value of
a short option is what is left of its word, or else the next word. Two hyphens alone end the options.

Where options and operands mix, all operands are gathered; where they do not, the first operand ends the
options, and the words from there on belong to someone else.
-/

namespace NoteSearch.Command

open Text

/-- **An option that may be given**: what it is about, how it is spelled, and whether it takes a value. -/
structure OptionSpec (κ : Type) where
  /-- What the option is about. -/
  key : κ
  /-- Its spellings. -/
  spellings : List String
  /-- Whether it takes a value. -/
  takesValue : Bool
  deriving Repr

/-- **The reason why a command line is refused.** -/
inductive UsageFault
  /-- There is no option of this spelling; some have a similar one. -/
  | noSuchOption (spelling : String) (similar : List String)
  /-- An option lacks its value. -/
  | lacksValue (spelling : String)
  /-- An option has a value, but takes none. -/
  | takesNoValue (spelling : String)
  /-- The value of an option is not one that it can have. -/
  | badValue (spellings : List String) (reason : String)
  /-- No command is named. -/
  | missingCommand
  /-- There is no command of this name. -/
  | noSuchCommand (name : String)
  /-- There are operands where none can be. -/
  | unexpectedOperands (operands : List String)
  deriving DecidableEq, Repr, Inhabited

namespace UsageFault

/-- The question which of some spellings was meant. -/
def suggestion : List String → String
  | [] => ""
  | [spelling] => " Did you mean " ++ quoted spelling ++ "?"
  | spellings =>
    " (Did you mean one of: " ++ String.intercalate ", " (spellings.map quoted) ++ "?)"

/-- What the user is told. -/
def message : UsageFault → String
  | noSuchOption spelling similar =>
    "No such option " ++ quoted spelling ++ "." ++ suggestion similar
  | lacksValue spelling => "Option " ++ quoted spelling ++ " requires an argument."
  | takesNoValue spelling => "Option " ++ quoted spelling ++ " does not take a value."
  | badValue spellings reason =>
    "Invalid value for "
      ++ String.intercalate " / " (spellings.map fun s => "'" ++ s ++ "'") ++ ": " ++ reason
  | missingCommand => "Missing command."
  | noSuchCommand name => "No such command " ++ quoted name ++ "."
  | unexpectedOperands operands =>
    "Got unexpected extra argument" ++ (if operands.length = 1 then "" else "s") ++ " ("
      ++ String.intercalate " " operands ++ ")"

end UsageFault

/-- **A command line that has been read**: the options that were given, in order, each with its value or an
empty text, and the operands. -/
structure Given (κ : Type) where
  /-- The options. -/
  options : List (κ × String) := []
  /-- The operands. -/
  operands : List String := []
  deriving Repr

namespace Given

/-- The values of an option, in order. -/
def all [BEq κ] (g : Given κ) (key : κ) : List String :=
  (g.options.filter (·.1 == key)).map (·.2)

/-- The last value of an option, if it was given. -/
def last? [BEq κ] (g : Given κ) (key : κ) : Option String :=
  (g.all key).getLast?

/-- Whether an option was given. -/
def has [BEq κ] (g : Given κ) (key : κ) : Bool :=
  g.options.any (·.1 == key)

/-- The one of two or more options that was given last. -/
def lastOf? [BEq κ] (g : Given κ) (keys : List κ) : Option κ :=
  ((g.options.map (·.1)).filter keys.contains).getLast?

/-- The last value of every option is examined, in the order in which the options were given first. -/
def examine [BEq κ] (g : Given κ) (check : κ → String → Except ε Unit) : Except ε Unit :=
  (g.options.map (·.1)).forM fun key => check key ((g.last? key).getD "")

/-- A command line of a command without operands has none. -/
def refuseOperands (g : Given κ) : Except UsageFault Unit :=
  if g.operands.isEmpty then .ok () else .error (.unexpectedOperands g.operands)

end Given

/-! ### Reading a word -/

/-- The option of a spelling. -/
def findOption? (specs : List (OptionSpec κ)) (spelling : String) : Option (OptionSpec κ) :=
  specs.find? fun s => s.spellings.contains spelling

/-- **What a word with options says**: the options in it, and the option at its end that waits for its
value in the next word, with its spelling. -/
structure OptionWord (κ : Type) where
  /-- The options that are complete. -/
  complete : List (κ × String) := []
  /-- The option that waits. -/
  waiting : Option (κ × String) := none

/-- The option of a long spelling, with the value that is given in the same word. -/
def longOption (s : OptionSpec κ) (spelling : String) :
    Option String → Except UsageFault (OptionWord κ)
  | some value =>
    if s.takesValue then .ok ⟨[(s.key, value)], none⟩ else .error (.takesNoValue spelling)
  | none => .ok (if s.takesValue then ⟨[], some (s.key, spelling)⟩ else ⟨[(s.key, "")], none⟩)

/-- The short options that the letters of a word stand for. -/
def shortOptions (specs : List (OptionSpec κ)) : List Char → Except UsageFault (OptionWord κ)
  | [] => .ok {}
  | c :: cs =>
    let spelling := String.ofList ['-', c]
    match findOption? specs spelling with
    | none => .error (.noSuchOption spelling [])
    | some s =>
      if s.takesValue then
        .ok (if cs.isEmpty then ⟨[], some (s.key, spelling)⟩
          else ⟨[(s.key, String.ofList cs)], none⟩)
      else do
        let w ← shortOptions specs cs
        return { w with complete := (s.key, "") :: w.complete }

/-- Whether a spelling is a long one. -/
def isLong (spelling : List Char) : Bool :=
  spelling.take 2 == ['-', '-']

/-- The long spellings of options. -/
def longSpellings (specs : List (OptionSpec κ)) : List String :=
  specs.flatMap fun s => s.spellings.filter fun spelling => isLong spelling.toList

/-- **Reading a word that starts with a hyphen.** -/
def readOptionWord (specs : List (OptionSpec κ)) (word : String) :
    Except UsageFault (OptionWord κ) :=
  let spelling := word.toList.takeWhile (· != '=')
  let value? := match word.toList.dropWhile (· != '=') with
    | [] => none
    | _ :: value => some (String.ofList value)
  if isLong word.toList then
    match findOption? specs (String.ofList spelling) with
    | some s => longOption s (String.ofList spelling) value?
    | none =>
      let spelling := String.ofList spelling
      .error (.noSuchOption spelling (similarNames spelling (longSpellings specs)))
  else shortOptions specs (word.toList.drop 1)

/-! ### Reading a command line -/

/-- Whether a word holds options. A hyphen alone does not. -/
def isOptionWord (word : String) : Bool :=
  match word.toList with
  | '-' :: _ :: _ => true
  | _ => false

/-- Reading the words of a command line, where an option may wait for its value. -/
def readWords (specs : List (OptionSpec κ)) (mixed : Bool) :
    Option (κ × String) → List String → Except UsageFault (Given κ)
  | none, [] => .ok {}
  | some (_, spelling), [] => .error (.lacksValue spelling)
  | some (key, _), word :: words => do
    let g ← readWords specs mixed none words
    return { g with options := (key, word) :: g.options }
  | none, word :: words =>
    if word == "--" then .ok ⟨[], words⟩
    else if isOptionWord word then do
      let w ← readOptionWord specs word
      let g ← readWords specs mixed w.waiting words
      return { g with options := w.complete ++ g.options }
    else if mixed then do
      let g ← readWords specs mixed none words
      return { g with operands := word :: g.operands }
    else .ok ⟨[], word :: words⟩

/-- **Reading a command line.** -/
def readCommandLine (specs : List (OptionSpec κ)) (mixed : Bool) (words : List String) :
    Except UsageFault (Given κ) :=
  readWords specs mixed none words

end NoteSearch.Command
