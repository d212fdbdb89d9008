import NoteSearch.Toml.Quoted

/-!
# Numbers in TOML

A whole number is written in decimal, with a sign if wanted and without zeros in front, or after `0x`,
`0o` or `0b` in one of the other bases. A single underscore may stand between two digits. A decimal
number with a fraction or an exponent is not a whole number.

The reader takes as much as makes a number. It does not look at what follows: where that does not
belong there, the line is refused later.
-/

namespace NoteSearch.Toml

open NoteSearch.Config (Value)
open Text (hexValue?)

/-- The greatest number of decimal digits of a whole number. -/
def maxDigits : Nat := 4300

/-- The values of further digits, each after an underscore or not, and the text after them. -/
def moreDigits (digit? : Char → Option Nat) : List Char → List Nat × List Char
  | [] => ([], [])
  | c :: cs =>
    match digit? c with
    | some d => let (ds, rest) := moreDigits digit? cs; (d :: ds, rest)
    | none =>
      match c, cs with
      | '_', e :: es =>
        match digit? e with
        | some d => let (ds, rest) := moreDigits digit? es; (d :: ds, rest)
        | none => ([], c :: cs)
      | _, _ => ([], c :: cs)

/-- The values of the digits at the start of a text, of which there is at least one. -/
def digits? (digit? : Char → Option Nat) : List Char → Option (List Nat × List Char)
  | [] => none
  | c :: cs => (digit? c).map fun d => let (ds, rest) := moreDigits digit? cs; (d :: ds, rest)

/-- The number that digits spell in a base. -/
def ofDigits (base : Nat) (ds : List Nat) : Nat :=
  ds.foldl (fun n d => base * n + d) 0

/-- The value of a digit in a base of at most sixteen. -/
def digitIn? (base : Nat) (c : Char) : Option Nat :=
  (hexValue? c).filter (· < base)

/-- A whole number after `0x`, `0o` or `0b`. -/
def basedNumber? : List Char → Option (Nat × List Char)
  | '0' :: 'x' :: cs => inBase 16 cs
  | '0' :: 'o' :: cs => inBase 8 cs
  | '0' :: 'b' :: cs => inBase 2 cs
  | _ => none
where
  /-- The number that the digits at the start of a text spell. -/
  inBase (base : Nat) (cs : List Char) : Option (Nat × List Char) :=
    (digits? (digitIn? base) cs).map fun (ds, rest) => (ofDigits base ds, rest)

/-- Whether a number is negative, and the text after its sign. -/
def sign : List Char → Bool × List Char
  | '-' :: cs => (true, cs)
  | '+' :: cs => (false, cs)
  | cs => (false, cs)

/-- The decimal digits before the point: a zero, or digits that do not start with one. -/
def wholePart? : List Char → Option (List Nat × List Char)
  | '0' :: cs => some ([0], cs)
  | cs => digits? (digitIn? 10) cs

/-- The text after the fraction at its start, if there is one. -/
def skipFraction : List Char → List Char
  | '.' :: cs =>
    match digits? (digitIn? 10) cs with
    | some (_, rest) => rest
    | none => '.' :: cs
  | cs => cs

/-- The text after the exponent at its start, if there is one. -/
def skipExponent : List Char → List Char
  | c :: cs =>
    if c == 'e' || c == 'E' then
      match digits? (digitIn? 10) (sign cs).2 with
      | some (_, rest) => rest
      | none => c :: cs
    else c :: cs
  | [] => []

/-- The characters of a text that come before its end `rest`. -/
def readBefore (cs rest : List Char) : String :=
  String.ofList (cs.take (cs.length - rest.length))

/-- **A number**, when there is one at the start. -/
def number? (cs : List Char) : Option (Reading Value) :=
  match basedNumber? cs with
  | some (n, rest) => some (.ok (.integer n, rest))
  | none => do
    let (negative, unsigned) := sign cs
    let (ds, afterWhole) ← wholePart? unsigned
    let rest := skipExponent (skipFraction afterWhole)
    if rest.length < afterWhole.length then
      return .ok (.real (readBefore cs rest), rest)
    else if maxDigits < ds.length then
      return .error .numberTooLong
    else
      let n := ofDigits 10 ds
      return .ok (.integer (if negative then -(n : Int) else n), rest)

/-- A number that is not finite, when there is one at the start. -/
def special? (cs : List Char) : Option (Reading Value) :=
  let name := (sign cs).2.take 3
  if name == ['i', 'n', 'f'] || name == ['n', 'a', 'n'] then
    let rest := (sign cs).2.drop 3
    some (.ok (.real (readBefore cs rest), rest))
  else none

end NoteSearch.Toml
