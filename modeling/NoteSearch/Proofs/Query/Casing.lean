import NoteSearch.Proofs.Query.Lockstep
import NoteSearch.Proofs.Query.Scanning
import NoteSearch.Proofs.Text.FoldCase

/-!
# A query in another case

Operators, keys and the two words for the pinned state are read in any case, and where a name ends does not
depend on the case of its letters. So the scanner takes the same steps in a query and in the same query with
its case folded, and finds the same tokens up to the case of names and terms
(`NoteSearch.scan_map_toLower`). The parser does not look at names and terms at all, and builds the same
expression up to their case (`NoteSearch.ofText?_foldCase`).
-/

namespace NoteSearch

open Text

/-- A leaf with the case of its name or term folded. -/
def Leaf.folded : Leaf → Leaf
  | tag name => tag (foldCase name)
  | folder name => folder (foldCase name)
  | text term => text (foldCase term)
  | pinned flag => pinned flag

/-- **An expression up to case**: with the case of all names and terms folded. -/
abbrev Expr.folded : Expr → Expr :=
  Expr.mapLeaf Leaf.folded

/-- A token with the case of its name or term folded. -/
abbrev Token.folded : Token → Token :=
  Token.mapLeaf Leaf.folded

/-- What a rule reads, up to case: a token, and what is left of the text. -/
def foldedReading : Token × List Char → Token × List Char :=
  Prod.map Token.folded (List.map Char.toLower)

variable {cs rest word : List Char} {token : Token}

/-! ### Pieces of a token -/

theorem dropWord?_map_toLower (word cs : List Char) :
    dropWord? word (cs.map Char.toLower) = (dropWord? word cs).map (List.map Char.toLower) := by
  induction word generalizing cs with
  | nil => rfl
  | cons k ks ih =>
    cases cs with
    | nil => rfl
    | cons c cs =>
      rw [List.map_cons, dropWord?, dropWord?, toLower_toLower, ih]
      split <;> rfl

theorem endsWord_map_toLower (cs : List Char) : endsWord (cs.map Char.toLower) = endsWord cs := by
  cases cs with
  | nil => rfl
  | cons c cs => exact congrArg (!·) (isWordChar_toLower c)

theorem dropWholeWord?_map_toLower (word cs : List Char) :
    dropWholeWord? word (cs.map Char.toLower)
      = (dropWholeWord? word cs).map (List.map Char.toLower) := by
  rw [dropWholeWord?, dropWholeWord?, dropWord?_map_toLower, Option.filter_map]
  exact congrArg (fun p => ((dropWord? word cs).filter p).map (List.map Char.toLower))
    (funext endsWord_map_toLower)

/-- **A name is read up to the same place** in either case. -/
theorem readName?_map_toLower (cs : List Char) :
    readName? (cs.map Char.toLower)
      = (readName? cs).map (Prod.map (List.map Char.toLower) (List.map Char.toLower)) := by
  rw [readName?, readName?, takeWhile_map_toLower isNameChar_toLower,
    dropWhile_map_toLower isNameChar_toLower, List.isEmpty_map]
  split <;> rfl

/-- So is a quotation: no letter is a quote. -/
theorem readQuoted?_map_toLower (cs : List Char) :
    readQuoted? (cs.map Char.toLower)
      = (readQuoted? cs).map (Prod.map (List.map Char.toLower) (List.map Char.toLower)) := by
  have hquote := toLower_bne (k := '"') (by decide) rfl
  rw [readQuoted?, readQuoted?, takeWhile_map_toLower hquote, dropWhile_map_toLower hquote,
    List.isEmpty_map, ← List.map_drop]
  split <;> rfl

theorem readValue?_map_toLower (cs : List Char) :
    readValue? (cs.map Char.toLower)
      = (readValue? cs).map (Prod.map (List.map Char.toLower) (List.map Char.toLower)) := by
  cases cs with
  | nil => exact readName?_map_toLower []
  | cons c cs =>
    by_cases hc : c = '"'
    · subst hc
      exact readQuoted?_map_toLower cs
    · have hc' : c.toLower ≠ '"' := fun h => hc ((toLower_eq_iff (by decide) rfl).mp h)
      rw [List.map_cons, readValue?_name (by simpa using hc'), readValue?_name (by simpa using hc)]
      exact readName?_map_toLower (c :: cs)

/-! ### The rules -/

/-- A fixed word stands for its token in either case. -/
theorem scanKeyword?_map_toLower {word : String} (htoken : token.folded = token) (cs : List Char) :
    scanKeyword? word token (cs.map Char.toLower)
      = (scanKeyword? word token cs).map foldedReading := by
  rw [scanKeyword?, scanKeyword?, dropWholeWord?_map_toLower, Option.map_map, Option.map_map]
  exact congrArg (fun g => (dropWholeWord? word.toList cs).map g)
    (funext fun rest => congrArg (·, rest.map Char.toLower) htoken.symm)

/-- A key is followed by the same value, up to case. -/
theorem scanKeyed?_map_toLower {key : String} {make : String → Leaf}
    (hmake : ∀ name, (make name).folded = make (foldCase name)) (cs : List Char) :
    scanKeyed? key make (cs.map Char.toLower) = (scanKeyed? key make cs).map foldedReading := by
  simp only [scanKeyed?, dropWord?_map_toLower]
  cases dropWord? key.toList cs with
  | none => rfl
  | some ds =>
    show (readValue? (ds.map Char.toLower)).bind _ = ((readValue? ds).bind _).map _
    rw [readValue?_map_toLower]
    cases readValue? ds with
    | none => rfl
    | some read =>
      obtain ⟨value, rest⟩ := read
      have hleaf := hmake (String.ofList value)
      rw [foldCase, String.toList_ofList] at hleaf
      exact congrArg (fun l => some (Token.leaf l, rest.map Char.toLower)) hleaf.symm

/-- A term is read as the same term, up to case. -/
theorem scanTerm?_map_toLower (cs : List Char) :
    scanTerm? (cs.map Char.toLower) = (scanTerm? cs).map foldedReading := by
  rw [scanTerm?, scanTerm?, readName?_map_toLower]
  cases readName? cs with
  | none => rfl
  | some read =>
    obtain ⟨name, rest⟩ := read
    have hleaf : (Leaf.text (String.ofList name)).folded
        = .text (String.ofList (name.map Char.toLower)) := by
      rw [Leaf.folded, foldCase, String.toList_ofList]
    exact congrArg (fun l => some (Token.leaf l, rest.map Char.toLower)) hleaf.symm

/-- **The same rule applies** in either case. -/
theorem scanWord?_map_toLower (cs : List Char) :
    scanWord? (cs.map Char.toLower) = (scanWord? cs).map foldedReading := by
  simp only [scanWord?, Option.orElse_eq_orElse, Option.orElse_eq_or, Option.map_or,
    scanKeyword?_map_toLower (rfl : Token.and.folded = .and),
    scanKeyword?_map_toLower (rfl : Token.or.folded = .or),
    scanKeyword?_map_toLower (rfl : Token.not.folded = .not),
    scanKeyword?_map_toLower (rfl : (Token.leaf (.pinned _)).folded = .leaf (.pinned _)),
    scanKeyed?_map_toLower (fun _ => rfl : ∀ name, (Leaf.tag name).folded = .tag (foldCase name)),
    scanKeyed?_map_toLower (fun _ => rfl : ∀ name, (Leaf.folder name).folded = .folder (foldCase name)),
    scanTerm?_map_toLower]

/-! ### The scan -/

/-- **A step of the scan** reads the same token, up to case, and leaves the same text. -/
theorem scanStep_toLower (c : Char) (cs : List Char) :
    scanStep c.toLower (cs.map Char.toLower)
      = Prod.map (Option.map Token.folded) (List.map Char.toLower) (scanStep c cs) := by
  have hopen : c.toLower = '(' ↔ c = '(' := toLower_eq_iff (by decide) rfl
  have hclose : c.toLower = ')' ↔ c = ')' := toLower_eq_iff (by decide) rfl
  have hword : scanWord? (c.toLower :: cs.map Char.toLower)
      = (scanWord? (c :: cs)).map foldedReading := scanWord?_map_toLower (c :: cs)
  simp only [scanStep, isBlank_toLower, hopen, hclose, hword]
  split
  · rfl
  split
  · rfl
  split
  · rfl
  cases scanWord? (c :: cs) <;> rfl

/-- **The scan of a text with its case folded** gives the same tokens, with theirs folded. -/
theorem scan_map_toLower (cs : List Char) :
    scan (cs.map Char.toLower) = (scan cs).map Token.folded := by
  induction hlen : cs.length using Nat.strongRecOn generalizing cs with
  | ind n ih =>
    cases cs with
    | nil => simp
    | cons c cs =>
      have hshorter : (scanStep c cs).2.length < n := by
        have := scanStep_length_le c cs
        rw [← hlen, List.length_cons]
        omega
      rw [List.map_cons, scan_cons, scan_cons, scanStep_toLower, List.map_append,
        ← ih _ hshorter _ rfl, Prod.map_fst, Prod.map_snd]
      cases (scanStep c cs).1 <;> rfl

/-- **The expression of a query with its case folded** is that of the query, with its case folded. -/
theorem ofText?_foldCase (query : String) :
    Expr.ofText? (foldCase query) = (Expr.ofText? query).map Expr.folded := by
  rw [Expr.ofText?, tokens, toList_foldCase, scan_map_toLower, ofTokens?_map_mapLeaf]
  rfl

end NoteSearch
