import NoteSearch.Proofs.Text.Character
import NoteSearch.Proofs.Text.Run
import NoteSearch.Query.Scan

/-!
# What the rules of the scanner read

One lemma for each piece of the scanner says exactly when it succeeds, and on what: a fixed word up to
the case of its letters (`NoteSearch.dropWord?_eq_some_iff`), a name as long as it can be
(`NoteSearch.readName?_eq_some_iff`), a quotation up to its closing quote
(`NoteSearch.readQuoted?_eq_some_iff`).

Which rule it was that read a token is told by `NoteSearch.WordRead`, with what the rules before it did not
read where that matters.

On top of them comes what is needed for terms. A text that is made of name characters, and does not
begin with an operator, is a term (`NoteSearch.IsTerm`). What is read as a name where no operator stands is
a term (`NoteSearch.isTerm_of_readName?`); and at a term, whatever follows that cannot prolong it, neither
an operator nor a key is found (`NoteSearch.dropWholeWord?_operator_eq_none`,
`NoteSearch.dropWord?_key_eq_none`).
-/

namespace NoteSearch

open Text

variable {cs rest name value word : List Char}

/-! ### Fixed words -/

theorem dropWord?_eq_some_iff :
    dropWord? word cs = some rest ↔ ∃ p, cs = p ++ rest ∧ p.map Char.toLower = word := by
  induction word generalizing cs with
  | nil => simp [dropWord?, eq_comm]
  | cons k ks ih =>
    cases cs with
    | nil => simp [dropWord?]
    | cons c cs =>
      have hcons : (∃ p, c :: cs = p ++ rest ∧ p.map Char.toLower = k :: ks) ↔
          c.toLower = k ∧ ∃ p, cs = p ++ rest ∧ p.map Char.toLower = ks := by
        constructor
        · rintro ⟨_ | ⟨c', p⟩, hp, hword⟩
          · simp at hword
          · obtain ⟨rfl, hcs⟩ := List.cons.inj hp
            obtain ⟨hc, hks⟩ := List.cons.inj hword
            exact ⟨hc, p, hcs, hks⟩
        · rintro ⟨rfl, p, rfl, rfl⟩
          exact ⟨c :: p, rfl, rfl⟩
      rw [hcons, ← ih, dropWord?]
      split
      · next hc => simp [hc]
      · next hc => simp [hc]

theorem dropWholeWord?_eq_some_iff :
    dropWholeWord? word cs = some rest ↔
      ∃ p, cs = p ++ rest ∧ p.map Char.toLower = word ∧ endsWord rest = true := by
  rw [dropWholeWord?, Option.filter_eq_some_iff, dropWord?_eq_some_iff]
  constructor
  · rintro ⟨⟨p, hcs, hp⟩, hend⟩
    exact ⟨p, hcs, hp, hend⟩
  · rintro ⟨p, hcs, hp, hend⟩
    exact ⟨⟨p, hcs, hp⟩, hend⟩

/-! ### Names -/

theorem readName?_eq_some_iff :
    readName? cs = some (name, rest) ↔ name ≠ [] ∧ cs = name ++ rest ∧
      (∀ c ∈ name, isNameChar c = true) ∧ ∀ c ∈ rest.head?, isNameChar c = false := by
  rw [← takeWhile_dropWhile_iff]
  simp only [readName?, List.isEmpty_iff]
  by_cases hempty : cs.takeWhile isNameChar = []
  · simp only [hempty, if_true, reduceCtorEq, false_iff]
    rintro ⟨hne, rfl, -⟩
    exact hne rfl
  · simp only [hempty, if_false, Option.some.injEq, Prod.mk.injEq]
    constructor
    · rintro ⟨rfl, rfl⟩
      exact ⟨hempty, rfl, rfl⟩
    · rintro ⟨-, h⟩
      exact h

/-- **A quotation** runs up to its closing quote, or to the end of the text without one. -/
theorem readQuoted?_eq_some_iff :
    readQuoted? cs = some (value, rest) ↔ value ≠ [] ∧ '"' ∉ value ∧
      (cs = value ++ '"' :: rest ∨ (cs = value ∧ rest = [])) := by
  simp only [readQuoted?, List.isEmpty_iff]
  obtain ⟨hcs, hvalue, hrest⟩ := (takeWhile_dropWhile_iff cs (· != '"')).mp ⟨rfl, rfl⟩
  constructor
  · intro h
    split at h
    · simp at h
    · next hne =>
      simp only [Option.some.injEq, Prod.mk.injEq] at h
      obtain ⟨rfl, rfl⟩ := h
      refine ⟨hne, fun hmem => by simpa using hvalue _ hmem, ?_⟩
      cases hdrop : cs.dropWhile (· != '"') with
      | nil =>
        rw [hdrop, List.append_nil] at hcs
        exact Or.inr ⟨hcs, rfl⟩
      | cons c ds =>
        rw [hdrop] at hrest hcs
        obtain rfl : c = '"' := by simpa using hrest c rfl
        exact Or.inl hcs
  · rintro ⟨hne, hquote, hcases⟩
    have hall : ∀ c ∈ value, (c != '"') = true := by
      intro c hc
      simp only [bne_iff_ne, ne_eq]
      rintro rfl
      exact hquote hc
    rcases hcases with rfl | ⟨rfl, rfl⟩
    · simp [List.takeWhile_append_of_pos hall, List.dropWhile_append_of_pos hall, hne]
    · have hfull := (takeWhile_dropWhile_iff cs (· != '"')).mpr
        ⟨(List.append_nil cs).symm, hall, by simp⟩
      simp [hfull.1, hfull.2, hne]

/-! ### Values -/

theorem readValue?_quote (cs : List Char) : readValue? ('"' :: cs) = readQuoted? cs := rfl

theorem readValue?_name (h : cs.head? ≠ some '"') : readValue? cs = readName? cs := by
  rw [readValue?]
  rintro ds rfl
  exact h rfl

/-- **No value is empty, and none has a quote in it.** -/
theorem ne_nil_and_not_mem_of_readValue? (h : readValue? cs = some (value, rest)) :
    value ≠ [] ∧ '"' ∉ value := by
  by_cases hquote : cs.head? = some '"'
  · obtain ⟨ds, rfl⟩ := List.head?_eq_some_iff.mp hquote
    rw [readValue?_quote, readQuoted?_eq_some_iff] at h
    exact ⟨h.1, h.2.1⟩
  · rw [readValue?_name hquote, readName?_eq_some_iff] at h
    refine ⟨h.1, fun hmem => ?_⟩
    have hname := h.2.2.1 _ hmem
    exact absurd hname (by decide +kernel)

/-! ### Terms -/

/-- The words that join and negate, in lower case. -/
def operatorWords : List (List Char) :=
  ["and".toList, "or".toList, "not".toList]

/-- Whether a text begins with an operator: one of the three words in any case, with nothing or a hyphen
after it. -/
def BeginsWithOperator (cs : List Char) : Prop :=
  ∃ p rest, cs = p ++ rest ∧ p.map Char.toLower ∈ operatorWords ∧
    (rest = [] ∨ rest.head? = some '-')

/-- **A term**: a run of name characters that does not begin with an operator. -/
def IsTerm (cs : List Char) : Prop :=
  cs ≠ [] ∧ (∀ c ∈ cs, isNameChar c = true) ∧ ¬BeginsWithOperator cs

/-- Where no operator stands, a name is a term: what follows a name never completes a word. -/
theorem isTerm_of_readName? (hop : ∀ word ∈ operatorWords, dropWholeWord? word cs = none)
    (h : readName? cs = some (name, rest)) : IsTerm name := by
  obtain ⟨hne, rfl, hname, hrest⟩ := readName?_eq_some_iff.mp h
  refine ⟨hne, hname, ?_⟩
  rintro ⟨p, after, rfl, hword, hafter⟩
  have hend : endsWord (after ++ rest) = true := by
    rcases hafter with rfl | hafter
    · cases rest with
      | nil => rfl
      | cons c rest =>
        have hc := hrest c rfl
        simp only [isNameChar, Bool.or_eq_false_iff] at hc
        simp [endsWord, hc.1]
    · obtain ⟨after, rfl⟩ := List.head?_eq_some_iff.mp hafter
      show (!isWordChar '-') = true
      decide +kernel
  have hsome : dropWholeWord? (p.map Char.toLower) (p ++ after ++ rest) = some (after ++ rest) :=
    dropWholeWord?_eq_some_iff.mpr ⟨p, List.append_assoc .., rfl, hend⟩
  rw [hop _ hword] at hsome
  exact absurd hsome (by simp)

/-- What a leaf can end at: the end of the text, or a character that neither prolongs a name nor is the
colon of a key. -/
def EndsLeaf (rest : List Char) : Prop :=
  ∀ c ∈ rest.head?, isNameChar c = false ∧ c ≠ ':'

/-- A fixed word that is found at a term lies within it. -/
theorem exists_of_dropWord?_term {term : List Char}
    (hword : ∀ c ∈ word, isNameChar c = true ∨ c = ':') (hrest : EndsLeaf rest)
    (h : dropWord? word (term ++ rest) = some value) :
    ∃ p q, term = p ++ q ∧ value = q ++ rest ∧ p.map Char.toLower = word := by
  obtain ⟨p, hp, rfl⟩ := dropWord?_eq_some_iff.mp h
  rcases List.append_eq_append_iff.mp hp with ⟨q, rfl, hq⟩ | ⟨q, hq, hvalue⟩
  · -- the word would reach beyond the term, into a character that no word has
    cases q with
    | nil => exact ⟨term, [], by simp, by simpa using hq.symm, by simp⟩
    | cons c q =>
      obtain ⟨hname, hcolon⟩ := hrest c (by rw [hq]; rfl)
      rcases hword c.toLower (by simp) with hc | hc
      · rw [isNameChar_toLower, hname] at hc
        exact absurd hc (by decide)
      · exact absurd (eq_of_toLower_eq (by decide) hc) hcolon
  · exact ⟨p, q, hq, hvalue, rfl⟩

/-- What stands before the value of a leaf, and the leaves that have no value to write. -/
def keys : List (List Char) :=
  ["tag:".toList, "folder:".toList, "pinned:true".toList, "pinned:false".toList]

/-- A key is made of the characters of names and of a colon. -/
theorem chars_of_mem_keys (hword : word ∈ keys) :
    (∀ c ∈ word, isNameChar c = true ∨ c = ':') ∧ ':' ∈ word := by
  have hall : keys.all (fun w => w.all (fun c => isNameChar c || c == ':') && w.contains ':') = true := by
    decide +kernel
  obtain ⟨hchars, hcolon⟩ := (Bool.and_eq_true _ _).mp (List.all_eq_true.mp hall word hword)
  refine ⟨fun c hc => ?_, List.contains_iff_mem.mp hcolon⟩
  simpa using List.all_eq_true.mp hchars c hc

/-- A key is never found at a term, which has no colon. -/
theorem dropWord?_key_eq_none {term : List Char} (hterm : ∀ c ∈ term, isNameChar c = true)
    (hword : word ∈ keys) (hrest : EndsLeaf rest) : dropWord? word (term ++ rest) = none := by
  obtain ⟨hchars, hcolon⟩ := chars_of_mem_keys hword
  refine Option.eq_none_iff_forall_ne_some.mpr fun value hvalue => ?_
  obtain ⟨p, q, rfl, -, rfl⟩ := exists_of_dropWord?_term hchars hrest hvalue
  obtain ⟨c, hc, hlower⟩ := List.mem_map.mp hcolon
  obtain rfl := eq_of_toLower_eq (by decide) hlower
  exact absurd (hterm _ (List.mem_append_left q hc)) (by decide +kernel)

/-- An operator is never found at a term. -/
theorem dropWholeWord?_operator_eq_none {term : List Char} (hterm : IsTerm term)
    (hword : word ∈ operatorWords) (hrest : EndsLeaf rest) :
    dropWholeWord? word (term ++ rest) = none := by
  refine Option.eq_none_iff_forall_ne_some.mpr fun value hvalue => ?_
  obtain ⟨hdrop, hend⟩ := Option.filter_eq_some_iff.mp hvalue
  have hall : operatorWords.all (fun w => w.all isNameChar) = true := by decide +kernel
  have hname : ∀ c ∈ word, isNameChar c = true :=
    List.all_eq_true.mp (List.all_eq_true.mp hall word hword)
  obtain ⟨p, q, rfl, rfl, rfl⟩ :=
    exists_of_dropWord?_term (fun c hc => Or.inl (hname c hc)) hrest hdrop
  refine hterm.2.2 ⟨p, q, rfl, hword, ?_⟩
  cases q with
  | nil => exact Or.inl rfl
  | cons c q =>
    -- the word ends here, and in a term that can only be a hyphen
    have hc := hterm.2.1 c (by simp)
    simp only [List.cons_append, endsWord, Bool.not_eq_true'] at hend
    simp only [isNameChar, hend, Bool.false_or, beq_iff_eq] at hc
    exact Or.inr (congrArg some hc)

/-! ### Which rule has applied -/

/-- The tokens that stand for a fixed word, and the words in lower case. -/
def fixedWords : List (Token × String) :=
  [(.and, "and"), (.or, "or"), (.not, "not"), (.leaf (.pinned true), "pinned:true"),
    (.leaf (.pinned false), "pinned:false")]

/-- The keys before a value in lower case, and what they make of the value. -/
def valueKeys : List (String × (String → Leaf)) :=
  [("tag:", .tag), ("folder:", .folder)]

/-- **How a word of the query was read**, by one of the three kinds of rules. A term is read where no operator
stands. -/
inductive WordRead (cs : List Char) : Token → List Char → Prop
  /-- A fixed word. -/
  | fixed {t : Token} {word : String} {rest : List Char} : (t, word) ∈ fixedWords →
      dropWholeWord? word.toList cs = some rest → WordRead cs t rest
  /-- A key and a value. -/
  | keyed {key : String} {make : String → Leaf} {after value rest : List Char} :
      (key, make) ∈ valueKeys → dropWord? key.toList cs = some after →
      readValue? after = some (value, rest) → WordRead cs (.leaf (make (String.ofList value))) rest
  /-- A term. -/
  | term {name rest : List Char} : (∀ word ∈ operatorWords, dropWholeWord? word cs = none) →
      readName? cs = some (name, rest) → WordRead cs (.leaf (.text (String.ofList name))) rest

theorem wordRead_of_scanKeyword? {word : String} {token t : Token} (hword : (token, word) ∈ fixedWords)
    (h : scanKeyword? word token cs = some (t, rest)) : WordRead cs t rest := by
  simp only [scanKeyword?, Option.map_eq_some_iff, Prod.mk.injEq] at h
  obtain ⟨rest, hdrop, rfl, rfl⟩ := h
  exact .fixed hword hdrop

theorem wordRead_of_scanKeyed? {key : String} {make : String → Leaf} {t : Token}
    (hkey : (key, make) ∈ valueKeys) (h : scanKeyed? key make cs = some (t, rest)) :
    WordRead cs t rest := by
  simp only [scanKeyed?, bind, Option.bind_eq_some_iff, pure, Option.some.injEq, Prod.mk.injEq] at h
  obtain ⟨after, hdrop, ⟨value, rest⟩, hvalue, rfl, rfl⟩ := h
  exact .keyed hkey hdrop hvalue

theorem dropWholeWord?_eq_none {word : String} {token : Token}
    (h : scanKeyword? word token cs = none) : dropWholeWord? word.toList cs = none := by
  simpa [scanKeyword?] using h

/-- **Whatever is read was read by a rule.** The rules for the operators come before the one for terms. -/
theorem wordRead_of_scanWord? {t : Token} (h : scanWord? cs = some (t, rest)) : WordRead cs t rest := by
  simp only [scanWord?, Option.orElse_eq_orElse, Option.orElse_eq_or, Option.or_eq_some_iff] at h
  rcases h with h | ⟨hand, h⟩
  · exact wordRead_of_scanKeyword? (by simp [fixedWords]) h
  rcases h with h | ⟨hor, h⟩
  · exact wordRead_of_scanKeyword? (by simp [fixedWords]) h
  rcases h with h | ⟨hnot, h⟩
  · exact wordRead_of_scanKeyword? (by simp [fixedWords]) h
  rcases h with h | ⟨-, h⟩
  · exact wordRead_of_scanKeyed? (by simp [valueKeys]) h
  rcases h with h | ⟨-, h⟩
  · exact wordRead_of_scanKeyed? (by simp [valueKeys]) h
  rcases h with h | ⟨-, h⟩
  · exact wordRead_of_scanKeyword? (by simp [fixedWords]) h
  rcases h with h | ⟨-, h⟩
  · exact wordRead_of_scanKeyword? (by simp [fixedWords]) h
  · simp only [scanTerm?, Option.map_eq_some_iff, Prod.mk.injEq] at h
    obtain ⟨⟨name, rest⟩, hname, rfl, rfl⟩ := h
    have hop : ∀ word ∈ operatorWords, dropWholeWord? word cs = none := by
      simpa [operatorWords] using
        ⟨dropWholeWord?_eq_none hand, dropWholeWord?_eq_none hor, dropWholeWord?_eq_none hnot⟩
    exact .term hop hname

end NoteSearch
