import NoteSearch.Console.ColorTable
import NoteSearch.Text.Decimal
import NoteSearch.Text.Digit
import NoteSearch.Text.Hexadecimal
import NoteSearch.Text.Lowercase
import NoteSearch.Text.Split

/-!
# Colors

A color is named, `red`, or numbered, `color(9)`, or mixed from red, green and blue, `#ff0000` and
`rgb(255,0,0)`. A terminal of sixteen colors shows each of them by the standard color that looks most like
it.
-/

namespace NoteSearch.Console

open Text

/-- **The reason why a style cannot be read.** -/
inductive StyleFault
  /-- There is no such style. -/
  | unknown
  /-- A mixed color has three parts, and one of them is not a number. -/
  | notANumber
  deriving DecidableEq, Repr, Inhabited

/-- **A color mixed** from three others. -/
structure Mix where
  /-- How much red it has, at most 255. -/
  red : Nat
  /-- How much green it has, at most 255. -/
  green : Nat
  /-- How much blue it has, at most 255. -/
  blue : Nat
  deriving DecidableEq, Repr, Inhabited

/-- **What a color looks like.** -/
inductive Shade
  /-- What the terminal takes where no color is asked for. -/
  | default
  /-- A color by its number, at most 255. -/
  | numbered (n : Nat)
  /-- A mixed color. -/
  | mixed (m : Mix)
  deriving DecidableEq, Repr, Inhabited

/-- **A color**: the word that asks for it, and what it looks like. -/
structure Color where
  /-- The word, in lower case. -/
  word : String
  /-- What it looks like. -/
  shade : Shade
  deriving DecidableEq, Repr, Inhabited

/-! ### The colors of a terminal -/

/-- The sixteen standard colors, from number zero on. -/
def standardColors : List Mix := [
  ⟨0, 0, 0⟩, ⟨170, 0, 0⟩, ⟨0, 170, 0⟩, ⟨170, 85, 0⟩, ⟨0, 0, 170⟩, ⟨170, 0, 170⟩, ⟨0, 170, 170⟩,
  ⟨170, 170, 170⟩, ⟨85, 85, 85⟩, ⟨255, 85, 85⟩, ⟨85, 255, 85⟩, ⟨255, 255, 85⟩, ⟨85, 85, 255⟩,
  ⟨255, 85, 255⟩, ⟨85, 255, 255⟩, ⟨255, 255, 255⟩]

/-- How much of a color there is on a step of the cube. -/
def cubeStep (n : Nat) : Nat :=
  if n == 0 then 0 else 55 + 40 * n

/-- The mix of a numbered color. After the standard colors come a cube of six steps to each side, and 24
grays. -/
def mixOfNumber (n : Nat) : Mix :=
  if n < 16 then (standardColors[n]?).getD default
  else if n < 232 then
    ⟨cubeStep ((n - 16) / 36), cubeStep ((n - 16) / 6 % 6), cubeStep ((n - 16) % 6)⟩
  else
    let gray := 8 + 10 * (n - 232)
    ⟨gray, gray, gray⟩

/-- How far apart two amounts are. -/
def apart (m n : Nat) : Nat :=
  max m n - min m n

/-- How different two colors look: the more red they have, the more a difference of red counts, and the less
one of blue. -/
def contrast (a b : Mix) : Nat :=
  let redness := (a.red + b.red) / 2
  let red := apart a.red b.red
  let green := apart a.green b.green
  let blue := apart a.blue b.blue
  (512 + redness) * red * red / 256 + 4 * green * green + (767 - redness) * blue * blue / 256

/-- The place of the first of the least numbers that follow, when `least` at place `best` is the least so
far. -/
def leastPlace (best least place : Nat) : List Nat → Nat
  | [] => best
  | n :: ns =>
    if n < least then leastPlace place n (place + 1) ns else leastPlace best least (place + 1) ns

/-- The standard color that looks most like a mix. -/
def nearestColor (m : Mix) : Nat :=
  match standardColors.map (contrast m) with
  | [] => 0
  | n :: ns => leastPlace 0 n 1 ns

namespace Shade

/-- The standard color that is shown, if it is not left to the terminal. -/
def standard? : Shade → Option Nat
  | default => none
  | numbered n => some (if n < 16 then n else nearestColor (mixOfNumber n))
  | mixed m => some (nearestColor m)

/-- The code that sets the color of what is written. -/
def code (s : Shade) : Nat :=
  match s.standard? with
  | none => 39
  | some n => if n < 8 then 30 + n else 82 + n

/-- The code that sets the color behind what is written. -/
def codeBehind (s : Shade) : Nat :=
  s.code + 10

end Shade

/-! ### Reading a color -/

/-- The mix that six hexadecimal digits spell, two for each part. -/
def mixOfHex? (cs : List Char) : Option Mix :=
  if cs.length == 6 then
    (hexNumber? cs).map fun n => ⟨n / 0x10000, n / 0x100 % 0x100, n % 0x100⟩
  else none

/-- The number that one to three of the digits `0` to `9` spell. -/
def colorNumber? (cs : List Char) : Option Nat :=
  if cs.length ≤ 3 then
    (readNumeral? cs).bind fun n => if n ≤ 255 then some n else none
  else none

/-- The mix of three numbers, which commas separate. -/
def mixOfNumbers (cs : List Char) : Except StyleFault Mix := do
  if !cs.all fun c => isDigit c || c == ',' then throw .unknown
  match splitAt (· == ',') cs with
  | [red, green, blue] =>
    match readShortNat? red, readShortNat? green, readShortNat? blue with
    | some red, some green, some blue =>
      if red ≤ 255 && green ≤ 255 && blue ≤ 255 then return ⟨red, green, blue⟩ else throw .unknown
    | _, _, _ => throw .notANumber
  | _ => throw .unknown

/-- What stands between a word and a parenthesis at the end. -/
def argumentOf? (word : String) (cs : List Char) : Option (List Char) :=
  let opening := word.toList ++ ['(']
  if opening.isPrefixOf cs && cs.getLast? == some ')' then
    some ((cs.drop opening.length).dropLast)
  else none

/-- What the color of a word in lower case looks like. -/
def shadeOf (cs : List Char) : Except StyleFault Shade :=
  let known : Option Shade → Except StyleFault Shade := fun s =>
    match s with
    | some s => .ok s
    | none => .error .unknown
  let word := String.ofList cs
  if word == "default" then .ok .default
  else
    match colorNames.find? (·.1 == word) with
    | some (_, n) => .ok (.numbered n)
    | none =>
      match cs, argumentOf? "color" cs, argumentOf? "rgb" cs with
      | '#' :: digits, _, _ => known ((mixOfHex? digits).map .mixed)
      | _, some digits, _ => known ((colorNumber? digits).map .numbered)
      | _, _, some numbers => (mixOfNumbers numbers).map .mixed
      | _, _, _ => .error .unknown

/-- **Reading a color.** -/
def Color.ofWord (word : List Char) : Except StyleFault Color := do
  let cs := trim (lowerFrom [] word)
  return ⟨String.ofList cs, ← shadeOf cs⟩

end NoteSearch.Console
