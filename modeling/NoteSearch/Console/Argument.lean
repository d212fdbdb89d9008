import NoteSearch.Text.Digit
import NoteSearch.Text.Hexadecimal
import NoteSearch.Text.Word

/-!
# Arguments of events

A tag for an event says what happens when its text is chosen: `@click=open(1)` names a handler and its
arguments, and `@click=1` gives a value alone. What is given has to be a constant: a number, a quoted text,
`True`, `False`, `None` or three dots, or a tuple, a set or a table of constants. The elements of a set and
the keys of a table are no sets or tables themselves. A complex number is written as a sum.

The text is read as tokens first (`NoteSearch.Console.Argument.tokens?`), of which each is checked by
itself; then the tokens are read as a constant (`NoteSearch.Console.Argument.atom?`).
-/

namespace NoteSearch.Console

open Text

namespace Argument

/-- **A part of a constant** that is read by itself. -/
inductive Token
  /-- A number, which may be imaginary. -/
  | number (imaginary : Bool)
  /-- A quoted text, of characters or of bytes. -/
  | quoted (bytes : Bool)
  /-- A word that is a constant, or three dots. -/
  | constant
  /-- The word that makes a set. -/
  | set
  /-- A plus or minus sign. -/
  | sign
  /-- A bracket, a comma or a colon. -/
  | mark (c : Char)
  /-- The end of a line, outside of brackets. -/
  | lineEnd
  deriving DecidableEq, Repr, Inhabited

/-! ### Numbers -/

/-- What follows digits, of which each after the first may have an underscore before it. -/
def afterDigits (digit : Char → Bool) : List Char → List Char
  | '_' :: c :: cs => if digit c then afterDigits digit cs else '_' :: c :: cs
  | c :: cs => if digit c then afterDigits digit cs else c :: cs
  | [] => []

/-- What follows at least one digit. -/
def afterSomeDigits? (digit : Char → Bool) : List Char → Option (List Char)
  | c :: cs => if digit c then some (afterDigits digit cs) else none
  | [] => none

/-- What follows a point and the digits after it, if there are any. -/
def afterFraction : List Char → List Char
  | '.' :: cs => (afterSomeDigits? Char.isDigit cs).getD cs
  | cs => cs

/-- What follows an exponent. -/
def afterExponent : List Char → List Char
  | c :: cs =>
    if c == 'e' || c == 'E' then
      let digits := match cs with
        | '+' :: ds => ds
        | '-' :: ds => ds
        | ds => ds
      (afterSomeDigits? Char.isDigit digits).getD (c :: cs)
    else c :: cs
  | [] => []

/-- Whether digits make a whole number: only zero starts with zeros, and there are not too many of them. -/
def isWhole (digits : List Char) : Bool :=
  let digits := digits.filter (· != '_')
  if digits.head? == some '0' then digits.all (· == '0') else digits.length ≤ maxDigits

/-- What follows a number in decimal, and whether it is imaginary. -/
def decimal? (cs : List Char) : Option (Bool × List Char) :=
  let whole := (afterSomeDigits? Char.isDigit cs).getD cs
  let rest := afterExponent (afterFraction whole)
  match rest with
  | 'j' :: rest => some (true, rest)
  | 'J' :: rest => some (true, rest)
  | _ =>
    if rest.length < whole.length || isWhole (cs.take (cs.length - whole.length)) then
      some (false, rest)
    else none

/-- What follows a number in base 16, 8 or 2 after the letter that names the base. -/
def based? (digit : Char → Bool) : List Char → Option (Bool × List Char)
  | '_' :: cs => (afterSomeDigits? digit cs).map fun rest => (false, rest)
  | cs => (afterSomeDigits? digit cs).map fun rest => (false, rest)

/-- Whether a character is a digit in base 16. -/
def isHexDigit (c : Char) : Bool :=
  (hexValue? c).isSome

/-- What follows the number at the start of a text. No letter, digit or underscore may stand there. -/
def number? (cs : List Char) : Option (Token × List Char) :=
  let r := match cs with
    | '0' :: c :: rest =>
      if c == 'x' || c == 'X' then based? isHexDigit rest
      else if c == 'o' || c == 'O' then based? (fun c => '0' ≤ c && c ≤ '7') rest
      else if c == 'b' || c == 'B' then based? (fun c => c == '0' || c == '1') rest
      else decimal? cs
    | _ => decimal? cs
  match r with
  | some (imaginary, rest) =>
    if rest.head?.any isWordChar then none else some (.number imaginary, rest)
  | none => none

/-! ### Quoted texts -/

/-- **How a text is quoted.** -/
structure Quoting where
  /-- The quotation mark. -/
  mark : Char
  /-- Whether the mark stands three times, and the text may run over several lines. -/
  long : Bool
  /-- Whether the text is of bytes. -/
  bytes : Bool
  /-- Whether backslashes are no escapes. -/
  raw : Bool
  deriving DecidableEq, Repr, Inhabited

/-- Whether what follows a backslash is an escape as it has to be. -/
def isEscape (q : Quoting) (cs : List Char) : Bool :=
  let digits := fun n => (cs.drop 1).length ≥ n && ((cs.drop 1).take n).all isHexDigit
  match cs.head? with
  | some 'x' => q.raw || digits 2
  | some 'u' => q.raw || q.bytes || digits 4
  | some 'U' =>
    q.raw || q.bytes
      || digits 8 && ((hexNumber? ((cs.drop 1).take 8)).getD 0) < 0x110000
  | some 'N' =>
    q.raw || q.bytes
      || (cs.drop 1).head? == some '\x7b' && (cs.drop 2).contains '\x7d'
  | some c => !q.bytes || c.toNat < 0x80
  | none => false

/-- What follows the text in quotation marks that goes on here. Of what is here the first `skip` characters
have been read already. -/
def afterQuoted? (q : Quoting) (skip : Nat) : List Char → Option (List Char)
  | [] => none
  | c :: cs =>
    match skip with
    | n + 1 => afterQuoted? q n cs
    | 0 =>
      if c == '\\' then if isEscape q cs then afterQuoted? q 1 cs else none
      else if c == q.mark then
        if !q.long then some cs
        else if [q.mark, q.mark].isPrefixOf cs then some (cs.drop 2)
        else afterQuoted? q 0 cs
      else if c == '\n' && !q.long then none
      else if q.bytes && 0x80 ≤ c.toNat then none
      else afterQuoted? q 0 cs

/-- What follows a quoted text, which starts with its quotation mark. -/
def quoted? (bytes raw : Bool) : List Char → Option (Token × List Char)
  | [] => none
  | mark :: cs =>
    let rest :=
      if [mark, mark].isPrefixOf cs then afterQuoted? ⟨mark, true, bytes, raw⟩ 0 (cs.drop 2)
      else afterQuoted? ⟨mark, false, bytes, raw⟩ 0 cs
    rest.map fun rest => (.quoted bytes, rest)

/-- Whether a text starts with a quotation mark. -/
def startsQuoted (cs : List Char) : Bool :=
  cs.head? == some '"' || cs.head? == some '\''

/-! ### Tokens -/

/-- What follows the word at the start of a text: a constant, or what goes before a quoted text. -/
def word? (cs : List Char) : Option (Token × List Char) :=
  let word := String.ofList (cs.takeWhile isWordChar)
  let rest := cs.dropWhile isWordChar
  if startsQuoted rest then
    let letters := word.toLower
    if letters == "" || letters == "u" then quoted? false false rest
    else if letters == "r" then quoted? false true rest
    else if letters == "b" then quoted? true false rest
    else if letters == "br" || letters == "rb" then quoted? true true rest
    else none
  else if word == "True" || word == "False" || word == "None" then some (.constant, rest)
  else if word == "set" then some (.set, rest)
  else none

/-- The first token of a text that does not start with a blank, and what follows it. -/
def token? : List Char → Option (Token × List Char)
  | '.' :: '.' :: '.' :: cs => some (.constant, cs)
  | [] => none
  | c :: cs =>
    if c.isDigit || (c == '.' && cs.head?.any Char.isDigit) then number? (c :: cs)
    else if c == '+' || c == '-' then some (.sign, cs)
    else if ['(', ')', '\x7b', '\x7d', ',', ':'].contains c then some (.mark c, cs)
    else word? (c :: cs)

/-- The greatest number of brackets that may be open. -/
def maxDepth : Nat := 200

/-- The number of open brackets after a token. None may close where none is open. -/
def depthAfter? (depth : Nat) : Token → Option Nat
  | .mark c =>
    if c == '(' || c == '\x7b' then if depth < maxDepth then some (depth + 1) else none
    else if c == ')' || c == '\x7d' then if depth == 0 then none else some (depth - 1)
    else some depth
  | _ => some depth

/-- The tokens of a text in which `depth` brackets are open. Lines end where none are; a comment ends with
its line, and a backslash takes a line on to the next one. -/
def tokensFrom? (depth : Nat) : Nat → List Char → Option (List Token)
  | _, [] => some []
  | 0, _ :: _ => none
  | fuel + 1, c :: cs =>
    if c == ' ' || c == '\t' || c == '\x0c' then tokensFrom? depth fuel cs
    else if c == '\n' then do
      let ts ← tokensFrom? depth fuel cs
      return if depth == 0 then .lineEnd :: ts else ts
    else if c == '#' then tokensFrom? depth fuel (cs.dropWhile (· != '\n'))
    else if c == '\\' then
      match cs with
      | '\n' :: d :: rest => tokensFrom? depth fuel (d :: rest)
      | _ => none
    else do
      let (t, rest) ← token? (c :: cs)
      let ts ← tokensFrom? (← depthAfter? depth t) fuel rest
      return t :: ts

/-- A text in which a line feed alone ends a line. -/
def plainLines : List Char → List Char
  | '\x0d' :: '\n' :: cs => '\n' :: plainLines cs
  | '\x0d' :: cs => '\n' :: plainLines cs
  | c :: cs => c :: plainLines cs
  | [] => []

/-- **The tokens of a text.** -/
def tokens? (cs : List Char) : Option (List Token) :=
  let cs := plainLines cs
  tokensFrom? 0 cs.length cs

/-! ### Constants -/

/-- **What kind of constant something is**, as far as it matters for what it may be a part of. -/
inductive Kind
  /-- A real number without a sign. -/
  | real
  /-- A real number with a sign. -/
  | signed
  /-- An imaginary number without a sign. -/
  | imaginary
  /-- Anything else. It may be an element of a set, or not. -/
  | other (element : Bool)
  deriving DecidableEq, Repr, Inhabited

/-- Whether a constant may be an element of a set, or a key of a table. -/
def Kind.isElement : Kind → Bool
  | .other element => element
  | _ => true

mutual

/-- The constant at the start of a list of tokens, which is no sum and has no sign, and what follows it. -/
def atom? : Nat → List Token → Option (Kind × List Token)
  | 0, _ => none
  | fuel + 1, ts =>
    match ts with
    | .number true :: ts => some (.imaginary, ts)
    | .number false :: ts => some (.real, ts)
    | .quoted bytes :: ts =>
      match ts.dropWhile (· == .quoted bytes) with
      | .quoted _ :: _ => none
      | rest => some (.other true, rest)
    | .constant :: ts => some (.other true, ts)
    | .set :: .mark '(' :: .mark ')' :: ts => some (.other false, ts)
    | .mark '(' :: .mark ')' :: ts => some (.other true, ts)
    | .mark '(' :: ts => do
      let (k, ts) ← value? fuel ts
      match ts with
      | .mark ')' :: ts => return (k, ts)
      | .mark ',' :: ts =>
        let (elements, ts) ← items? ')' fuel ts
        return (.other (k.isElement && elements), ts)
      | _ => none
    | .mark '\x7b' :: .mark '\x7d' :: ts => some (.other false, ts)
    | .mark '\x7b' :: ts => do
      let (k, ts) ← value? fuel ts
      if !k.isElement then none
      match ts with
      | .mark '\x7d' :: ts => return (.other false, ts)
      | .mark ',' :: ts =>
        let (elements, ts) ← items? '\x7d' fuel ts
        if elements then some (.other false, ts) else none
      | .mark ':' :: ts =>
        let (_, ts) ← value? fuel ts
        match ts with
        | .mark '\x7d' :: ts => return (.other false, ts)
        | .mark ',' :: ts => return (.other false, ← entries? fuel ts)
        | _ => none
      | _ => none
    | _ => none

/-- The constant at the start of a list of tokens, and what follows it. Only a number may have a sign, and
only an imaginary number may be added to a real one. -/
def value? : Nat → List Token → Option (Kind × List Token)
  | 0, _ => none
  | fuel + 1, ts => do
    let (k, ts) ←
      match ts with
      | .sign :: ts => do
        match ← atom? fuel ts with
        | (.real, ts) => some (Kind.signed, ts)
        | (.imaginary, ts) => some (.other true, ts)
        | _ => none
      | ts => atom? fuel ts
    match ts with
    | .sign :: ts =>
      if k != .real && k != .signed then none
      match ← atom? fuel ts with
      | (.imaginary, ts) => return (.other true, ts)
      | _ => none
    | ts => return (k, ts)

/-- The constants up to a closing bracket, after a comma: whether all of them may be elements of a set, and
what follows. A comma may stand before the bracket. -/
def items? (closing : Char) : Nat → List Token → Option (Bool × List Token)
  | 0, _ => none
  | fuel + 1, ts =>
    match ts with
    | .mark c :: rest => if c == closing then some (true, rest) else moreItems? closing fuel ts
    | _ => moreItems? closing fuel ts

/-- The constants up to a closing bracket, of which there is at least one. -/
def moreItems? (closing : Char) : Nat → List Token → Option (Bool × List Token)
  | 0, _ => none
  | fuel + 1, ts => do
    let (k, ts) ← value? fuel ts
    match ts with
    | .mark c :: ts =>
      if c == closing then return (k.isElement, ts)
      if c != ',' then none
      let (elements, ts) ← items? closing fuel ts
      return (k.isElement && elements, ts)
    | _ => none

/-- What follows the entries of a table, after a comma. -/
def entries? : Nat → List Token → Option (List Token)
  | 0, _ => none
  | fuel + 1, ts =>
    match ts with
    | .mark '\x7d' :: ts => some ts
    | _ => do
      let (k, ts) ← value? fuel ts
      if !k.isElement then none
      match ts with
      | .mark ':' :: ts =>
        let (_, ts) ← value? fuel ts
        match ts with
        | .mark '\x7d' :: ts => return ts
        | .mark ',' :: ts => entries? fuel ts
        | _ => none
      | _ => none

end

/-- The tokens without the ends of lines before and after them. -/
def bareTokens (ts : List Token) : List Token :=
  ((ts.dropWhile (· == .lineEnd)).reverse.dropWhile (· == .lineEnd)).reverse

/-- Whether a text is a constant. Several constants with commas between them are a tuple. -/
def isConstant (cs : List Char) : Bool :=
  match (tokens? cs).map bareTokens with
  | none => false
  | some [] => false
  | some ts => atom? (3 * ts.length + 6) (.mark '(' :: ts ++ [.mark ')']) matches some (_, [])

/-- What is given after the name of a handler, if there is one: the text from a parenthesis on,
or nothing. -/
def givenTo (cs : List Char) : List Char :=
  let rest := cs.dropWhile fun c => isWordChar c || c == '.'
  if rest.isEmpty then ['(', ')']
  else if rest.head? == some '(' && rest.getLast? == some ')' && !rest.contains '\n' then rest
  else cs

end Argument

/-- **Whether a text may be the argument of an event**: a handler with constants, or constants alone. -/
def isArgument (cs : List Char) : Bool :=
  Argument.isConstant (Argument.givenTo (trim cs))

end NoteSearch.Console
