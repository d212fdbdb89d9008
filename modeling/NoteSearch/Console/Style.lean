import NoteSearch.Console.Color

/-!
# Styles

A style says how a text looks: which kinds of emphasis are on or off, its color, and the color behind it.
What it leaves open is as it was before. A style is described in words, as in `bold red on white`, and every
description has a canonical form (`NoteSearch.Console.Style.text`), by which two tags are told to be the
same.

A terminal is told of a style by codes before the text, and forgets it by a code after the text.
-/

namespace NoteSearch.Console

open Text

/-- **A kind of emphasis.** -/
inductive Emphasis
  /-- Heavy strokes. -/
  | bold
  /-- Less contrast. -/
  | dim
  /-- Slanted. -/
  | italic
  /-- A line below. -/
  | underline
  /-- Blinking. -/
  | blink
  /-- Blinking fast. -/
  | blinkFast
  /-- The two colors changed about. -/
  | reverse
  /-- Not to be seen. -/
  | conceal
  /-- A line through the middle. -/
  | strike
  /-- Two lines below. -/
  | underlineTwice
  /-- A frame around. -/
  | frame
  /-- A circle around. -/
  | encircle
  /-- A line above. -/
  | overline
  deriving DecidableEq, Repr, Inhabited

namespace Emphasis

/-- All kinds, in the order in which they are written. -/
def all : List Emphasis :=
  [bold, dim, italic, underline, blink, blinkFast, reverse, conceal, strike, underlineTwice, frame, encircle,
    overline]

/-- The words for a kind, the one that is written first. -/
def words : Emphasis → List String
  | bold => ["bold", "b"]
  | dim => ["dim", "d"]
  | italic => ["italic", "i"]
  | underline => ["underline", "u"]
  | blink => ["blink"]
  | blinkFast => ["blink2"]
  | reverse => ["reverse", "r"]
  | conceal => ["conceal", "c"]
  | strike => ["strike", "s"]
  | underlineTwice => ["underline2", "uu"]
  | frame => ["frame"]
  | encircle => ["encircle"]
  | overline => ["overline", "o"]

/-- The word that is written for a kind. -/
def word (e : Emphasis) : String :=
  (e.words.head?).getD ""

/-- The kind that a word stands for. -/
def ofWord? (w : String) : Option Emphasis :=
  all.find? (·.words.contains w)

/-- The code that sets a kind. -/
def code : Emphasis → Nat
  | bold => 1
  | dim => 2
  | italic => 3
  | underline => 4
  | blink => 5
  | blinkFast => 6
  | reverse => 7
  | conceal => 8
  | strike => 9
  | underlineTwice => 21
  | frame => 51
  | encircle => 52
  | overline => 53

end Emphasis

/-- **A style.** -/
structure Style where
  /-- The kinds of emphasis that are on or off, the latest first. -/
  emphases : List (Emphasis × Bool) := []
  /-- The color. -/
  color : Option Color := none
  /-- The color behind. -/
  behind : Option Color := none
  /-- Where the text leads when it is chosen. -/
  link : Option String := none
  deriving DecidableEq, Repr, Inhabited

namespace Style

/-- **The plain style**, which leaves everything open. -/
def plain : Style := {}

/-- Whether a kind of emphasis is on, if that is not left open. -/
def emphasis? (s : Style) (e : Emphasis) : Option Bool :=
  (s.emphases.find? (·.1 == e)).map (·.2)

/-- A style with a kind of emphasis on or off. -/
def emphasize (s : Style) (e : Emphasis) (on : Bool) : Style :=
  { s with emphases := (e, on) :: s.emphases }

/-- A style on top of another: it decides, except for what it leaves open. -/
def onTopOf (top bottom : Style) : Style where
  emphases := top.emphases ++ bottom.emphases
  color := top.color <|> bottom.color
  behind := top.behind <|> bottom.behind
  link := top.link <|> bottom.link

/-- Styles on top of one another, the last one on top. -/
def stack (styles : List Style) : Style :=
  styles.foldl (fun bottom top => top.onTopOf bottom) plain

/-! ### Words -/

/-- A style that more words describe. What follows `on` is the color behind, what follows `not` a kind of
emphasis that is off, and what follows `link` where the text leads. -/
def addWords (s : Style) : List (List Char) → Except StyleFault Style
  | [] => .ok s
  | w :: ws =>
    let word := lowercase (String.ofList w)
    if word == "on" then
      match ws with
      | [] => .error .unknown
      | c :: ws => do addWords { s with behind := some (← Color.ofWord c) } ws
    else if word == "not" then
      match ws with
      | [] => .error .unknown
      | e :: ws =>
        match Emphasis.ofWord? (String.ofList e) with
        | some e => addWords (s.emphasize e false) ws
        | none => .error .unknown
    else if word == "link" then
      match ws with
      | [] => .error .unknown
      | place :: ws => addWords { s with link := some (String.ofList place) } ws
    else
      match Emphasis.ofWord? word with
      | some e => addWords (s.emphasize e true) ws
      | none => do addWords { s with color := some (← Color.ofWord w) } ws

/-- **Reading a description.** -/
def ofText (description : String) : Except StyleFault Style :=
  if trim description.toList == "none".toList then .ok plain
  else plain.addWords (blankWords description.toList)

/-- The words of the canonical description. -/
def describe (s : Style) : List String :=
  Emphasis.all.flatMap (fun e =>
      match s.emphasis? e with
      | some true => [e.word]
      | some false => ["not", e.word]
      | none => [])
    ++ s.color.toList.map (·.word)
    ++ s.behind.toList.flatMap (fun c => ["on", c.word])
    ++ s.link.toList.flatMap fun place => ["link", place]

/-- **The canonical description.** -/
def text (s : Style) : String :=
  match s.describe with
  | [] => "none"
  | words => String.intercalate " " words

/-! ### Codes -/

/-- The codes that tell a terminal of a style. -/
def codes (s : Style) : List Nat :=
  (Emphasis.all.filter fun e => s.emphasis? e == some true).map Emphasis.code
    ++ s.color.toList.map (·.shade.code)
    ++ s.behind.toList.map (·.shade.codeBehind)

/-- What starts a message to the terminal. -/
def escape : Char := '\x1b'

/-- Codes as they are sent to the terminal. -/
def setCodes (codes : List Nat) : List Char :=
  escape :: '[' :: [';'].intercalate (codes.map numeral) ++ ['m']

/-- A text between the messages that start a link and end it. -/
def linked (place : String) (cs : List Char) : List Char :=
  let message := fun content : List Char => escape :: ']' :: '8' :: ';' :: content ++ [escape, '\\']
  message ("id=0;".toList ++ place.toList) ++ cs ++ message [';']

/-- **A text as a terminal is sent it** in a style. -/
def paint (s : Style) (cs : List Char) : List Char :=
  if cs.isEmpty then cs
  else
    let painted := if s.codes.isEmpty then cs else setCodes s.codes ++ cs ++ setCodes [0]
    match s.link with
    | some place => linked place painted
    | none => painted

end Style

end NoteSearch.Console
