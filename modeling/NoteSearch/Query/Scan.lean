import NoteSearch.Query.Token
import NoteSearch.Text.Blank
import NoteSearch.Text.Word

/-!
# Scanning a query

Every text scans into some sequence of tokens: what starts no token is dropped. At each position,
blanks are skipped, and then the first of these rules that applies is taken.

1. a parenthesis;
2. one of the words `and`, `or`, `not`, in any case of letters, not followed by a word character;
3. `tag:` followed by a value;
4. `folder:` followed by a value;
5. `pinned:true` or `pinned:false`, not followed by a word character;
6. a name, which is a term to look for.

A value is a name or a text in double quotes. Quotes have no escapes, and a quote that is never closed
runs to the end of the query. A `tag:` without a value is no token, so its characters are scanned
again by the later rules: `tag:` is the term `tag` and a dropped colon.

Each rule returns the text after what it read, and that text is shorter than before: this is why the
scan ends (`NoteSearch.scanStep_length_le`).
-/

namespace NoteSearch

open Text

/-! ### Pieces of a token -/

/-- The text after `word`, when the text starts with it up to the case of ASCII letters. The word is
given in lower case. -/
def dropWord? : List Char → List Char → Option (List Char)
  | [], cs => some cs
  | k :: ks, c :: cs => if c.toLower = k then dropWord? ks cs else none
  | _ :: _, [] => none

/-- Whether a word that has just been read is complete: no word character follows. -/
def endsWord : List Char → Bool
  | [] => true
  | c :: _ => !isWordChar c

/-- The text after `word`, when it stands there as a whole word. -/
def dropWholeWord? (word cs : List Char) : Option (List Char) :=
  (dropWord? word cs).filter endsWord

/-- The name at the start of a text, and what follows it. -/
def readName? (cs : List Char) : Option (List Char × List Char) :=
  let name := cs.takeWhile isNameChar
  if name.isEmpty then none else some (name, cs.dropWhile isNameChar)

/-- The text up to the closing quote, and what follows that quote; `cs` starts after the opening
quote. An empty quotation is no value. -/
def readQuoted? (cs : List Char) : Option (List Char × List Char) :=
  let value := cs.takeWhile (· != '"')
  if value.isEmpty then none else some (value, (cs.dropWhile (· != '"')).drop 1)

/-- The value at the start of a text, and what follows it. -/
def readValue? : List Char → Option (List Char × List Char)
  | '"' :: cs => readQuoted? cs
  | cs => readName? cs

/-! ### The rules -/

/-- Rule 2 and rule 5: a fixed word that stands for a token. -/
def scanKeyword? (word : String) (token : Token) (cs : List Char) : Option (Token × List Char) :=
  (dropWholeWord? word.toList cs).map fun rest => (token, rest)

/-- Rules 3 and 4: a key and its value. -/
def scanKeyed? (key : String) (make : String → Leaf) (cs : List Char) :
    Option (Token × List Char) := do
  let (value, rest) ← readValue? (← dropWord? key.toList cs)
  return (.leaf (make (String.ofList value)), rest)

/-- Rule 6: a term. -/
def scanTerm? (cs : List Char) : Option (Token × List Char) :=
  (readName? cs).map fun (name, rest) => (.leaf (.text (String.ofList name)), rest)

/-- Rules 2 to 6, in their order. -/
def scanWord? (cs : List Char) : Option (Token × List Char) :=
  scanKeyword? "and" .and cs <|> scanKeyword? "or" .or cs <|> scanKeyword? "not" .not cs
    <|> scanKeyed? "tag:" .tag cs <|> scanKeyed? "folder:" .folder cs
    <|> scanKeyword? "pinned:true" (.leaf (.pinned true)) cs
    <|> scanKeyword? "pinned:false" (.leaf (.pinned false)) cs
    <|> scanTerm? cs

/-- **One step of the scan** at a text that starts with `c`: the token read there, if any, and the
text after it. A character that starts no token is passed over alone. -/
def scanStep (c : Char) (cs : List Char) : Option Token × List Char :=
  if isBlank c then (none, cs)
  else if c = '(' then (some .openParen, cs)
  else if c = ')' then (some .closeParen, cs)
  else match scanWord? (c :: cs) with
    | some (token, rest) => (some token, rest)
    | none => (none, cs)

/-! ### Every step gets somewhere -/

theorem length_of_dropWord? {word cs rest : List Char} (h : dropWord? word cs = some rest) :
    cs.length = word.length + rest.length := by
  induction word generalizing cs with
  | nil => simp_all [dropWord?]
  | cons k ks ih =>
    cases cs with
    | nil => simp [dropWord?] at h
    | cons c cs =>
      simp only [dropWord?] at h
      split at h
      · simp [ih h]; omega
      · simp at h

theorem length_of_dropWholeWord? {word cs rest : List Char}
    (h : dropWholeWord? word cs = some rest) : cs.length = word.length + rest.length :=
  length_of_dropWord? (Option.filter_eq_some_iff.1 h).1

theorem length_dropWhile_le (p : Char → Bool) (cs : List Char) :
    (cs.dropWhile p).length ≤ cs.length :=
  (List.dropWhile_suffix p).length_le

theorem readName?_length_lt {cs name rest : List Char} (h : readName? cs = some (name, rest)) :
    rest.length < cs.length := by
  cases cs with
  | nil => simp [readName?] at h
  | cons c cs =>
    by_cases hc : isNameChar c = true
    · simp [readName?, hc] at h
      have := length_dropWhile_le isNameChar cs
      simp [← h.2]; omega
    · simp [readName?, hc] at h

theorem readQuoted?_length_le {cs value rest : List Char}
    (h : readQuoted? cs = some (value, rest)) : rest.length ≤ cs.length := by
  have := length_dropWhile_le (· != '"') cs
  simp only [readQuoted?] at h
  split at h
  · simp at h
  · simp only [Option.some.injEq, Prod.mk.injEq] at h
    simp only [← h.2, List.length_drop]; omega

theorem readValue?_length_lt {cs value rest : List Char} (h : readValue? cs = some (value, rest)) :
    rest.length < cs.length := by
  unfold readValue? at h
  split at h
  · have := readQuoted?_length_le h
    simp; omega
  · exact readName?_length_lt h

theorem scanKeyword?_length_lt {word : String} {token t : Token} {cs rest : List Char}
    (hword : word.toList ≠ []) (h : scanKeyword? word token cs = some (t, rest)) :
    rest.length < cs.length := by
  simp only [scanKeyword?, Option.map_eq_some_iff, Prod.mk.injEq] at h
  obtain ⟨r, hr, -, rfl⟩ := h
  have := length_of_dropWholeWord? hr
  have := List.length_pos_iff.2 hword
  omega

theorem scanKeyed?_length_lt {key : String} {make : String → Leaf} {t : Token}
    {cs rest : List Char} (h : scanKeyed? key make cs = some (t, rest)) :
    rest.length < cs.length := by
  simp only [scanKeyed?, bind, Option.bind_eq_some_iff, pure, Option.some.injEq,
    Prod.mk.injEq] at h
  obtain ⟨r, hr, ⟨value, rest'⟩, hv, -, rfl⟩ := h
  have := length_of_dropWord? hr
  have := readValue?_length_lt hv
  simp only at *
  omega

theorem scanTerm?_length_lt {t : Token} {cs rest : List Char} (h : scanTerm? cs = some (t, rest)) :
    rest.length < cs.length := by
  simp only [scanTerm?, Option.map_eq_some_iff, Prod.mk.injEq] at h
  obtain ⟨⟨name, r⟩, hr, -, rfl⟩ := h
  exact readName?_length_lt hr

theorem scanWord?_length_lt {t : Token} {cs rest : List Char} (h : scanWord? cs = some (t, rest)) :
    rest.length < cs.length := by
  simp only [scanWord?, Option.orElse_eq_orElse, Option.orElse_eq_or, Option.or_eq_some_iff] at h
  rcases h with h | ⟨-, h⟩
  · exact scanKeyword?_length_lt (by decide) h
  rcases h with h | ⟨-, h⟩
  · exact scanKeyword?_length_lt (by decide) h
  rcases h with h | ⟨-, h⟩
  · exact scanKeyword?_length_lt (by decide) h
  rcases h with h | ⟨-, h⟩
  · exact scanKeyed?_length_lt h
  rcases h with h | ⟨-, h⟩
  · exact scanKeyed?_length_lt h
  rcases h with h | ⟨-, h⟩
  · exact scanKeyword?_length_lt (by decide) h
  rcases h with h | ⟨-, h⟩
  · exact scanKeyword?_length_lt (by decide) h
  · exact scanTerm?_length_lt h

/-- **A step of the scan moves on**: it leaves no more than what follows its first character. -/
theorem scanStep_length_le (c : Char) (cs : List Char) :
    (scanStep c cs).2.length ≤ cs.length := by
  unfold scanStep
  split
  · exact Nat.le_refl _
  split
  · exact Nat.le_refl _
  split
  · exact Nat.le_refl _
  split
  · next h => exact Nat.le_of_lt_succ (scanWord?_length_lt h)
  · exact Nat.le_refl _

/-! ### The scan -/

/-- **The tokens of a text**, in order. -/
def scan : List Char → List Token
  | [] => []
  | c :: cs =>
    match _h : scanStep c cs with
    | (some token, rest) => token :: scan rest
    | (none, rest) => scan rest
termination_by cs => cs.length
decreasing_by
  all_goals
    have := scanStep_length_le c cs
    rw [_h] at this
    exact Nat.lt_succ_of_le this

@[simp] theorem scan_nil : scan [] = [] := by
  rw [scan]

theorem scan_cons (c : Char) (cs : List Char) :
    scan (c :: cs) = (scanStep c cs).1.toList ++ scan (scanStep c cs).2 := by
  rw [scan]
  split <;> next h => simp [h]

/-- The tokens of a query. -/
def tokens (query : String) : List Token :=
  scan query.toList

end NoteSearch
