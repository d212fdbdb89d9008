import NoteSearch.Console.EmojiTable
import NoteSearch.Text.Hexadecimal
import NoteSearch.Text.Lowercase
import NoteSearch.Text.Split

/-!
# Emoji by name

A name between two colons stands for an emoji: `:heart:`. Capitals are as good as small letters. At the end
of the name `-text` or `-emoji` asks for the plain form of the emoji or for the colored one. What names no
emoji stays as it is, both colons included, and its second colon starts no other name.
-/

namespace NoteSearch.Console

open Text

/-- The characters whose code points are written with plus signs between them. -/
def charsOfCodes (codes : List Char) : List Char :=
  (splitAt (· == '+') codes).filterMap fun digits => (hexNumber? digits).map Char.ofNat

/-- The emoji of a list of words, in which names and code points take turns. -/
def emojiOfWords : List (List Char) → List (String × List Char)
  | name :: codes :: ws => (String.ofList name, charsOfCodes codes) :: emojiOfWords ws
  | _ => []

/-- **All emoji**, by name. -/
def allEmoji : List (String × List Char) :=
  emojiNames.flatMap fun line => emojiOfWords (blankWords line.toList)

/-- The emoji of a name in lower case. -/
def emojiNamed? (name : String) : Option (List Char) :=
  (allEmoji.find? (·.1 == name)).map (·.2)

/-- What asks for a form of an emoji, and the selector of that form. -/
def emojiForms : List (List Char × Char) :=
  [("-text".toList, '\uFE0E'), ("-emoji".toList, '\uFE0F')]

/-- The emoji that is asked for between two colons. -/
def emojiAsked? (name : List Char) : Option (List Char) :=
  let (bare, selector) :=
    match emojiForms.find? fun f => f.1.isSuffixOf name with
    | some (ending, selector) => (name.take (name.length - ending.length), [selector])
    | none => (name, [])
  (emojiNamed? (lowercase (String.ofList bare))).map (· ++ selector)

/-- The name between a colon and the next one, in the text after the first. -/
def nameToColon? (cs : List Char) : Option (List Char) :=
  let name := cs.takeWhile fun c => c != ':' && !isBlank c
  if (cs.drop name.length).head? == some ':' then some name else none

/-- A text with emoji for their names. The first `skip` characters have been dealt with already. -/
def replaceEmojiFrom (skip : Nat) : List Char → List Char
  | [] => []
  | c :: cs =>
    match skip with
    | n + 1 => replaceEmojiFrom n cs
    | 0 =>
      if c == ':' then
        match nameToColon? cs with
        | some name =>
          (emojiAsked? name).getD (':' :: name ++ [':']) ++ replaceEmojiFrom (name.length + 1) cs
        | none => c :: replaceEmojiFrom 0 cs
      else c :: replaceEmojiFrom 0 cs

/-- **A text with emoji for their names.** -/
def replaceEmoji (cs : List Char) : List Char :=
  replaceEmojiFrom 0 cs

end NoteSearch.Console
