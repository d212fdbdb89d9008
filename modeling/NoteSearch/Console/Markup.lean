import NoteSearch.Console.Argument
import NoteSearch.Console.Emoji
import NoteSearch.Console.StyleSheet

/-!
# Markup in messages

What is printed for people to read may hold tags in square brackets, which say how the text between them
looks: `[info]done[/info]`. A tag starts with a lower-case letter, `#`, `/` or `@`, and holds no further
bracket; a bracket that starts no tag is text. A backslash before a tag makes it text as well, and two
backslashes before one stand for one.

A tag that closes must close something: the latest open tag of its name, or the latest open tag when it
names none. Names that describe the same style are the same, so that `[/b]` closes `[bold]`. That tags stay
open is no fault. A tag whose name starts with `@` is for an event; its argument has to be a constant
(`NoteSearch.Console.isArgument`) when it is closed.

Between tags, names of emoji between colons are replaced (`NoteSearch.Console.replaceEmoji`).
-/

namespace NoteSearch.Console

open Text

/-- **The reason why markup is refused.** -/
inductive MarkupFault
  /-- No tag of this name is open. -/
  | notOpen (name : String)
  /-- The argument of an event is no constant. -/
  | badArgument (argument : String)
  /-- A style cannot be read. -/
  | style (fault : StyleFault)
  deriving DecidableEq, Repr, Inhabited

/-- What the user is told. -/
def MarkupFault.message : MarkupFault → String
  | notOpen name => "The closing tag '[/" ++ name ++ "]' has nothing to close."
  | badArgument argument => "The argument '" ++ argument ++ "' of an event is no constant."
  | style .unknown => "There is no such style."
  | style .notANumber => "A part of a mixed color is not a number."

/-- **A stretch of a text that a tag spans**, from a place up to a place. -/
structure Span where
  /-- Where it starts. -/
  first : Nat
  /-- Where it ends. -/
  last : Nat
  /-- The name of its style. -/
  style : String
  deriving DecidableEq, Repr, Inhabited

/-- **A text with the stretches that tags span.** Where two of them overlap, the later one is on top. -/
structure Marked where
  /-- The text, without tags. -/
  chars : List Char
  /-- The stretches. -/
  spans : List Span := []
  deriving DecidableEq, Repr, Inhabited

/-! ### Parts -/

/-- Whether a character may be the first of a tag. -/
def startsTag (c : Char) : Bool :=
  c.isLower || c == '#' || c == '/' || c == '@'

/-- What is inside the tag at the start of a text, if there is one. -/
def tagAt? : List Char → Option (List Char)
  | '[' :: c :: cs =>
    let body := cs.takeWhile fun d => d != '[' && d != ']'
    if startsTag c && (cs.drop body.length).head? == some ']' then some (c :: body) else none
  | _ => none

/-- **A part of a text with markup.** -/
inductive Part
  /-- A text. -/
  | text (cs : List Char)
  /-- A tag, by what is inside it. -/
  | tag (body : List Char)
  deriving DecidableEq, Repr, Inhabited

/-- The part that a text is, unless it is empty. -/
def textParts (cs : List Char) : List Part :=
  if cs.isEmpty then [] else [.text cs]

/-- What a tag stands for after a number of backslashes. -/
def afterBackslashes (count : Nat) (body : List Char) : List Part :=
  textParts (List.replicate (count / 2) '\\')
    ++ [if count % 2 == 0 then .tag body else .text ('[' :: body ++ [']'])]

/-- The text up to the first tag, and the parts from there on. The first `skip` characters belong to a part
that has been read already. -/
def partsFrom (skip : Nat) : List Char → List Char × List Part
  | [] => ([], [])
  | c :: cs =>
    match skip with
    | n + 1 => partsFrom n cs
    | 0 =>
      let backslashes := ((c :: cs).takeWhile (· == '\\')).length
      match tagAt? ((c :: cs).drop backslashes) with
      | some body =>
        let (text, rest) := partsFrom (backslashes + body.length + 1) cs
        ([], afterBackslashes backslashes body ++ textParts text ++ rest)
      | none =>
        let (text, rest) := partsFrom 0 cs
        (c :: text, rest)

/-- **The parts of a text.** -/
def parts (cs : List Char) : List Part :=
  let (text, rest) := partsFrom 0 cs
  textParts text ++ rest

/-- A text in which a backslash before a bracket is dropped. -/
def withoutBackslashes : List Char → List Char
  | [] => []
  | '\\' :: '[' :: cs => '[' :: withoutBackslashes cs
  | c :: cs => c :: withoutBackslashes cs

/-- Whether a character is printed. The bell, the backspace and the feeds other than the line feed are
not. -/
def isPrinted (c : Char) : Bool :=
  !(c.toNat == 7 || c.toNat == 8 || c.toNat == 11 || c.toNat == 12 || c.toNat == 13)

/-- What is printed for a text between tags. -/
def printedText (cs : List Char) : List Char :=
  (replaceEmoji (withoutBackslashes cs)).filter isPrinted

/-! ### Opening and closing -/

/-- The name by which a tag is known: the canonical description of its style, or else the name in lower
case. -/
def tagName (name : List Char) : Except MarkupFault String :=
  match Style.ofText (String.ofList name) with
  | .ok s => .ok s.text
  | .error .unknown => .ok (lowercase (String.ofList (trim name)))
  | .error fault => .error (.style fault)

/-- **A tag that asks for a style or an event.** -/
structure MarkupTag where
  /-- The name by which it is known. -/
  name : String
  /-- What stands after the equals sign, if there is one. -/
  argument : Option (List Char)
  deriving DecidableEq, Repr, Inhabited

namespace MarkupTag

/-- The name of the style that a tag asks for. -/
def style (t : MarkupTag) : String :=
  match t.argument with
  | none => t.name
  | some argument => t.name ++ " " ++ String.ofList argument

/-- Whether a tag is for an event. -/
def isEvent (t : MarkupTag) : Bool :=
  t.name.startsWith "@"

/-- The argument of an event; without one it is empty. -/
def eventArgument (t : MarkupTag) : List Char :=
  t.argument.getD []

end MarkupTag

/-- **A tag that is open.** -/
structure OpenTag extends MarkupTag where
  /-- Where it was opened. -/
  place : Nat
  deriving Repr, Inhabited

namespace OpenTag

/-- The stretch that a tag spans if nothing closes it before the end of the text. -/
def spanToEnd (t : OpenTag) (last : Nat) : Span :=
  ⟨t.place, last, t.style⟩

/-- The stretch that a tag spans when it is closed. For an event the text is plain. -/
def close (t : OpenTag) (last : Nat) : Except MarkupFault Span :=
  if t.isEvent then
    if t.eventArgument.isEmpty || isArgument t.eventArgument then .ok ⟨t.place, last, "none"⟩
    else .error (.badArgument (String.ofList t.eventArgument))
  else .ok (t.spanToEnd last)

end OpenTag

/-- **A text of which a beginning has been read**, the latest character first, with the tags that are
open, the latest first. -/
structure Reader where
  /-- The characters so far. -/
  back : List Char := []
  /-- How many there are. -/
  count : Nat := 0
  /-- The open tags. -/
  openTags : List OpenTag := []
  /-- The stretches that are complete, the latest first. -/
  spans : List Span := []
  deriving Repr, Inhabited

namespace Reader

/-- The reader after a tag that closes: the latest open tag of a name, or the latest open tag. -/
def closeTag (r : Reader) (name : Option String) : Except MarkupFault Reader := do
  let isMeant := fun t : OpenTag => name.all (· == t.name)
  match r.openTags.findIdx? isMeant, r.openTags.find? isMeant with
  | some i, some t =>
    return { r with openTags := r.openTags.eraseIdx i, spans := (← t.close r.count) :: r.spans }
  | _, _ => throw (.notOpen (name.getD ""))

/-- The reader after one more part. -/
def step (r : Reader) : Part → Except MarkupFault Reader
  | .text cs =>
    let cs := printedText cs
    .ok { r with back := cs.reverse ++ r.back, count := r.count + cs.length }
  | .tag body => do
    let name := body.takeWhile (· != '=')
    match name with
    | '/' :: closed =>
      if (trim closed).isEmpty then r.closeTag none else r.closeTag (some (← tagName (trim closed)))
    | _ =>
      let argument := ((body.drop name.length).tail?)
      return { r with openTags := ⟨⟨← tagName name, argument⟩, r.count⟩ :: r.openTags }

/-- What has been read, when nothing follows. The stretches are in the order in which they start; of those
that start at one place, the one that ends first is on top. -/
def finish (r : Reader) : Marked where
  chars := r.back.reverse
  spans :=
    ((r.openTags.reverse.map fun t => t.spanToEnd r.count) ++ r.spans).mergeSort
      fun s t => s.first ≤ t.first

end Reader

/-- **Reading markup.** -/
def Marked.ofMarkup (markup : List Char) : Except MarkupFault Marked := do
  return (← (parts markup).foldlM Reader.step {}).finish

end NoteSearch.Console
