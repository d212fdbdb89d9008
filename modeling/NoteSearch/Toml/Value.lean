import NoteSearch.Toml.Calendar

/-!
# Values in TOML

A value is a text, a truth value, a list, a table on one line, a date, a time or a number. Lists may run
over several lines, and hold comments; tables in braces may not. In such a table an entry may name a key
within a table within it, but a value that is itself a list or a table in braces is complete, and no later
entry reaches into it.

Lists and tables hold values, so their readers and that of a value are one recursion. What bounds it is
the length of the text (`NoteSearch.Toml.value`), and nothing else: that a stack of limited height is full at
some depth is left out.
-/

namespace NoteSearch.Toml

open NoteSearch.Config (Value Table)

/-- The key of a value: the keys of the tables that it lies in, from outside, and its own. -/
abbrev Key := List String

/-! ### Keys -/

/-- Whether a character may stand in a key without quotes. -/
def isBare (c : Char) : Bool :=
  c.isAlphanum || c == '-' || c == '_'

/-- One part of a key. Texts of several lines are no keys, so three quotes in a row are an empty key and
the start of something else. -/
def keyPart (cs : List Char) : Reading String :=
  match cs with
  | '"' :: cs => (basicLine cs).map fun (k, rest) => (String.ofList k, rest)
  | '\'' :: cs => (literal ['\''] isForbidden cs).map fun (k, rest) => (String.ofList k, rest)
  | cs =>
    let k := cs.takeWhile isBare
    if k.isEmpty then .error .malformed else .ok (String.ofList k, cs.dropWhile isBare)

/-- The parts of a key that are joined by dots, with spaces around them; at most `fuel` parts. -/
def keyParts : Nat → List Char → Except Fault (Key × List Char)
  | 0, _ => .error .malformed
  | fuel + 1, cs => do
    let (k, cs) ← keyPart cs
    match skipSpaces cs with
    | '.' :: cs =>
      let (ks, cs) ← keyParts fuel (skipSpaces cs)
      return (k :: ks, cs)
    | cs => return ([k], cs)

/-- **A key**, and the spaces after it. -/
def key (cs : List Char) : Reading Key :=
  keyParts (cs.length + 1) cs

/-! ### Tables within tables -/

/-- The table with another table within it changed, which is made if it is not there. When `intoLists` is
set, the last member of a list of tables stands for the list. -/
def changeWithin? (intoLists : Bool) (change : Table → Option Table) :
    Key → Table → Option Table
  | [], t => change t
  | k :: ks, t =>
    match Table.get? t k with
    | none => do return Table.set t k (.table (← changeWithin? intoLists change ks []))
    | some (.table u) => do return Table.set t k (.table (← changeWithin? intoLists change ks u))
    | some (.list vs) =>
      match intoLists, vs.getLast? with
      | true, some (.table u) => do
        let u ← changeWithin? intoLists change ks u
        return Table.set t k (.list (vs.dropLast ++ [.table u]))
      | _, _ => none
    | some _ => none

/-- The table with an entry added, unless the key is taken. -/
def addKey? (k : String) (v : Value) (t : Table) : Option Table :=
  if (Table.get? t k).isSome then none else some (Table.set t k v)

/-- The table with the value of a key added. -/
def addWithin? (intoLists : Bool) (k : Key) (v : Value) (t : Table) : Option Table :=
  match k.getLast? with
  | some last => changeWithin? intoLists (addKey? last v) k.dropLast t
  | none => none

/-- Whether a value is complete in itself: a list, or a table in braces. -/
def isClosed : Value → Bool
  | .list _ => true
  | .table _ => true
  | _ => false

/-! ### Values -/

/-- A value that holds no other value. -/
def scalar (cs : List Char) : Reading Value :=
  match cs with
  | 't' :: 'r' :: 'u' :: 'e' :: cs => .ok (.boolean true, cs)
  | 'f' :: 'a' :: 'l' :: 's' :: 'e' :: cs => .ok (.boolean false, cs)
  | cs =>
    match (quoted? cs).map (·.map fun (s, rest) => (Value.text (String.ofList s), rest))
        <|> date? cs <|> time? cs <|> number? cs <|> special? cs with
    | some reading => reading
    | none => .error .malformed

mutual

/-- A value, with at most `fuel` values one within another or one after another. -/
def valueWithin : Nat → List Char → Except Fault (Value × List Char)
  | 0, _ => .error .malformed
  | fuel + 1, cs =>
    match cs with
    | '[' :: cs => do
      match ← skipGap false cs with
      | ']' :: cs => return (.list [], cs)
      | cs =>
        let (vs, cs) ← itemsWithin fuel cs
        return (.list vs, cs)
    | '\x7b' :: cs =>
      match skipSpaces cs with
      | '\x7d' :: cs => .ok (.table [], cs)
      | cs => do
        let (t, cs) ← entriesWithin fuel [] [] cs
        return (.table t, cs)
    | cs => scalar cs

/-- The values of a list, up to its closing bracket. -/
def itemsWithin : Nat → List Char → Except Fault (List Value × List Char)
  | 0, _ => .error .malformed
  | fuel + 1, cs => do
    let (v, cs) ← valueWithin fuel cs
    match ← skipGap false cs with
    | ']' :: cs => return ([v], cs)
    | ',' :: cs =>
      match ← skipGap false cs with
      | ']' :: cs => return ([v], cs)
      | cs =>
        let (vs, cs) ← itemsWithin fuel cs
        return (v :: vs, cs)
    | _ => .error .malformed

/-- The entries of a table in braces, up to its closing brace; `closed` are the keys within it that are
complete. -/
def entriesWithin : Nat → List Key → Table → List Char → Except Fault (Table × List Char)
  | 0, _, _, _ => .error .malformed
  | fuel + 1, closed, t, cs => do
    let (k, cs) ← key cs
    let (v, cs) ← valueWithin fuel (skipSpaces (← expect '=' cs))
    if closed.any (·.isPrefixOf k) then .error .malformed
    else match addWithin? false k v t with
      | none => .error .malformed
      | some t =>
        match skipSpaces cs with
        | '\x7d' :: cs => return (t, cs)
        | ',' :: cs =>
          entriesWithin fuel (if isClosed v then k :: closed else closed) t (skipSpaces cs)
        | _ => .error .malformed

end

/-- **A value.** Every value, and every separator before one, takes up a character, so the text is long
enough to bound the recursion. -/
def value (cs : List Char) : Reading Value :=
  valueWithin (2 * cs.length + 2) cs

end NoteSearch.Toml
