import NoteSearch.Text.CasingTable

/-!
# Lower-casing a text

Tags are listed in the order of their lower-case spelling, for letters of every script. The lower
case of a character depends on that character alone, with two exceptions: the dotted capital `İ`
becomes two characters, and the capital sigma `Σ` is written `ς` at the end of a word and `σ`
elsewhere.
-/

namespace NoteSearch.Text

/-- The lower case of a single character, where it is a single character. -/
def lowerChar (c : Char) : Char :=
  match caseRuns.find? fun r =>
      r.first ≤ c.toNat && c.toNat ≤ r.last && (c.toNat - r.first) % r.step == 0 with
  | some r => Char.ofNat (r.target + (c.toNat - r.first))
  | none => c

/-- Whether a text begins with a cased character, once the characters that casing looks through are
passed over. -/
def beginsCased (cs : List Char) : Bool :=
  match cs.dropWhile caseIgnorable.contains with
  | c :: _ => casedChars.contains c
  | [] => false

/-- The lower case of a text of which the characters of `before`, nearest first, have been read. A
capital sigma ends a word when a cased character comes before it and none comes after it. -/
def lowerFrom (before : List Char) : List Char → List Char
  | [] => []
  | c :: cs =>
    let lowered :=
      if c == 'Σ' then [if beginsCased before && !beginsCased cs then 'ς' else 'σ']
      else if c == 'İ' then ['i', '\u0307']
      else [lowerChar c]
    lowered ++ lowerFrom (c :: before) cs

/-- **The lower case of a text.** -/
def lowercase (s : String) : String :=
  String.ofList (lowerFrom [] s.toList)

end NoteSearch.Text
