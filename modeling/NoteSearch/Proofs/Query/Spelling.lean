import NoteSearch.Proofs.Query.Consumption
import NoteSearch.Proofs.Query.Scanning
import NoteSearch.Query.Render

/-!
# What can be written as a query

Not every expression has a text. The query language has no escapes, so a name with a quote in it cannot
be written, and a term is whatever a word of the query can be: it has no blanks, and does not begin with
an operator. The expressions whose names and terms can be written are *spellable*
(`NoteSearch.Expr.Spellable`).

Two things are shown of them. Every leaf of a parsed expression was scanned from the text, and no rule of
the scanner makes a leaf that cannot be written: so whatever is read is spellable
(`NoteSearch.spellable_of_ofText?`). And the text of a spellable expression scans into the tokens of its
leaves, operators and parentheses (`NoteSearch.Expr.spell`), whatever follows, as long as that does not
prolong its last word (`NoteSearch.scan_render`).
-/

namespace NoteSearch

open Text

variable {cs rest value : List Char}

/-! ### What can be written -/

/-- **A leaf that can be written**: its name is not empty and has no quote in it, or its term is one. -/
def Leaf.Spellable : Leaf → Prop
  | tag name => name ≠ "" ∧ '"' ∉ name.toList
  | folder name => name ≠ "" ∧ '"' ∉ name.toList
  | text term => IsTerm term.toList
  | pinned _ => True

/-- **An expression that can be written**: all its leaves can. -/
def Expr.Spellable (e : Expr) : Prop :=
  ∀ l ∈ e.leaves, l.Spellable

/-! ### Whatever is read can be written -/

/-- **Every leaf that a rule makes can be written.** A term does not begin with an operator because the
rules for the operators come first. -/
theorem spellable_of_scanWord? {l : Leaf} (h : scanWord? cs = some (.leaf l, rest)) :
    l.Spellable := by
  cases wordRead_of_scanWord? h with
  | fixed hword _ =>
    -- the operators are no leaves
    simp only [fixedWords, List.mem_cons, Prod.mk.injEq, List.not_mem_nil, or_false, reduceCtorEq,
      false_and, false_or] at hword
    rcases hword with ⟨hl, -⟩ | ⟨hl, -⟩
    · obtain rfl := Token.leaf.inj hl
      trivial
    · obtain rfl := Token.leaf.inj hl
      trivial
  | keyed hkey _ hvalue =>
    obtain ⟨hne, hquote⟩ := ne_nil_and_not_mem_of_readValue? hvalue
    simp only [valueKeys, List.mem_cons, Prod.mk.injEq, List.not_mem_nil, or_false] at hkey
    rcases hkey with ⟨-, rfl⟩ | ⟨-, rfl⟩
    · exact ⟨mt String.ofList_eq_empty_iff.mp hne, by simpa using hquote⟩
    · exact ⟨mt String.ofList_eq_empty_iff.mp hne, by simpa using hquote⟩
  | term hop hname => simpa [Leaf.Spellable] using isTerm_of_readName? hop hname

theorem spellable_of_scanStep {c : Char} {l : Leaf} (h : (scanStep c cs).1 = some (.leaf l)) :
    l.Spellable := by
  unfold scanStep at h
  split at h
  · exact absurd h (by simp)
  split at h
  · exact absurd h (by simp)
  split at h
  · exact absurd h (by simp)
  split at h
  · next token rest hread =>
    obtain rfl := Option.some.inj h
    exact spellable_of_scanWord? hread
  · exact absurd h (by simp)

theorem spellable_of_mem_scan {l : Leaf} (h : .leaf l ∈ scan cs) : l.Spellable := by
  induction cs using scan.induct with
  | case1 => simp at h
  | case2 c cs token rest hstep ih =>
    rw [scan_cons, hstep] at h
    rcases List.mem_append.mp h with h | h
    · have hfirst : (scanStep c cs).1 = some (.leaf l) := by
        rw [hstep]
        exact Option.mem_toList.mp h
      exact spellable_of_scanStep hfirst
    · exact ih h
  | case3 c cs rest hstep ih =>
    rw [scan_cons, hstep] at h
    exact ih (by simpa using h)

/-- The leaves of what is read from a text are those of its tokens. -/
theorem leaf_mem_tokens_of_ofText? {query : String} {e : Expr} {l : Leaf} (h : Expr.ofText? query = some e)
    (hl : l ∈ e.leaves) : .leaf l ∈ tokens query := by
  have hmem : l ∈ leavesOf (tokens query) := (leaves_prefix_of_ofTokens? h).subset hl
  obtain ⟨t, ht, htl⟩ := List.mem_filterMap.mp hmem
  cases t <;> simp [Token.leaf?] at htl
  exact htl ▸ ht

/-- **What is read from a text can be written**, since its leaves are those of the text's tokens. -/
theorem spellable_of_ofText? {query : String} {e : Expr} (h : Expr.ofText? query = some e) :
    e.Spellable :=
  fun _ hl => spellable_of_mem_scan (leaf_mem_tokens_of_ofText? h hl)

/-! ### The tokens of a written expression -/

/-- The tokens in parentheses, when they need them. -/
def grouped (needed : Bool) (ts : List Token) : List Token :=
  if needed then .openParen :: ts ++ [.closeParen] else ts

/-- **The tokens of an expression's text.** -/
def Expr.spell : Expr → List Token
  | leaf l => [.leaf l]
  | and l r => l.spell ++ .and :: grouped r.isAnd r.spell
  | or l r => grouped true (l.spell ++ .or :: r.spell)
  | not e => .not :: grouped (e.isAnd || e.isNot) e.spell

theorem endsLeaf_nil : EndsLeaf [] := by
  simp [EndsLeaf]

theorem endsLeaf_space (cs : List Char) : EndsLeaf (' ' :: cs) := by
  have hspace : isNameChar ' ' = false ∧ ' ' ≠ ':' := by decide +kernel
  simpa [EndsLeaf] using hspace

theorem endsLeaf_closeParen (cs : List Char) : EndsLeaf (')' :: cs) := by
  have hclose : isNameChar ')' = false ∧ ')' ≠ ':' := by decide +kernel
  simpa [EndsLeaf] using hclose

theorem EndsLeaf.endsWord (h : EndsLeaf rest) : endsWord rest = true := by
  cases rest with
  | nil => rfl
  | cons c rest =>
    have hc := (h c rfl).1
    simp only [isNameChar, Bool.or_eq_false_iff] at hc
    simp [NoteSearch.endsWord, hc.1]

/-! ### One step of the scan over a written expression -/

theorem scan_space (cs : List Char) : scan (' ' :: cs) = scan cs := by
  rw [scan_cons]
  rfl

theorem scan_openParen (cs : List Char) : scan ('(' :: cs) = .openParen :: scan cs := by
  rw [scan_cons]
  rfl

theorem scan_closeParen (cs : List Char) : scan (')' :: cs) = .closeParen :: scan cs := by
  rw [scan_cons]
  rfl

/-- Where a word is read, it is the next token. -/
theorem scan_of_scanWord? {c : Char} {t : Token} (hblank : isBlank c = false)
    (hparen : c ≠ '(' ∧ c ≠ ')') (h : scanWord? (c :: cs) = some (t, rest)) :
    scan (c :: cs) = t :: scan rest := by
  have hstep : scanStep c cs = (some t, rest) := by
    rw [scanStep, if_neg (by simp [hblank]), if_neg hparen.1, if_neg hparen.2, h]
  rw [scan_cons, hstep]
  rfl

theorem scanKeyword?_eq_some (word : String) (token : Token) (p : List Char)
    (hp : p.map Char.toLower = word.toList) (hend : endsWord rest = true) :
    scanKeyword? word token (p ++ rest) = some (token, rest) := by
  rw [scanKeyword?, dropWholeWord?_eq_some_iff.mpr ⟨p, rfl, hp, hend⟩]
  rfl

/-- A word with a space after it is the next token, and the space goes with it. -/
theorem scan_word_space {c : Char} {p : List Char} {t : Token} (hblank : isBlank c = false)
    (hparen : c ≠ '(' ∧ c ≠ ')') (h : scanWord? (c :: p ++ ' ' :: cs) = some (t, ' ' :: cs)) :
    scan (c :: p ++ ' ' :: cs) = t :: scan cs := by
  rw [← scan_space cs]
  exact scan_of_scanWord? hblank hparen h

theorem scan_and (cs : List Char) : scan (" AND ".toList ++ cs) = .and :: scan cs := by
  have hend : endsWord (' ' :: cs) = true := (endsLeaf_space cs).endsWord
  have hread := scanKeyword?_eq_some "and" .and "AND".toList (by decide) hend
  have hword : scanWord? ("AND".toList ++ ' ' :: cs) = some (.and, ' ' :: cs) := by
    simp only [scanWord?, hread, Option.orElse_eq_orElse, Option.orElse_eq_or, Option.some_or]
  exact (scan_space _).trans (scan_word_space (by decide) (by decide) hword)

theorem scan_or (cs : List Char) : scan (" OR ".toList ++ cs) = .or :: scan cs := by
  have hend : endsWord (' ' :: cs) = true := (endsLeaf_space cs).endsWord
  have hand : scanKeyword? "and" .and ("OR".toList ++ ' ' :: cs) = none := rfl
  have hread := scanKeyword?_eq_some "or" .or "OR".toList (by decide) hend
  have hword : scanWord? ("OR".toList ++ ' ' :: cs) = some (.or, ' ' :: cs) := by
    simp only [scanWord?, hand, hread, Option.orElse_eq_orElse, Option.orElse_eq_or,
      Option.none_or, Option.some_or]
  exact (scan_space _).trans (scan_word_space (by decide) (by decide) hword)

theorem scan_not (cs : List Char) : scan ("NOT ".toList ++ cs) = .not :: scan cs := by
  have hend : endsWord (' ' :: cs) = true := (endsLeaf_space cs).endsWord
  have hand : scanKeyword? "and" .and ("NOT".toList ++ ' ' :: cs) = none := rfl
  have hor : scanKeyword? "or" .or ("NOT".toList ++ ' ' :: cs) = none := rfl
  have hread := scanKeyword?_eq_some "not" .not "NOT".toList (by decide) hend
  have hword : scanWord? ("NOT".toList ++ ' ' :: cs) = some (.not, ' ' :: cs) := by
    simp only [scanWord?, hand, hor, hread, Option.orElse_eq_orElse, Option.orElse_eq_or,
      Option.none_or, Option.some_or]
  exact scan_word_space (by decide) (by decide) hword

/-! ### A written leaf -/

theorem ne_nil_and_isNameChar_of_needsQuotes {name : List Char} (h : needsQuotes name = false) :
    name ≠ [] ∧ ∀ c ∈ name, isNameChar c = true := by
  simp only [needsQuotes, Bool.or_eq_false_iff, Bool.not_eq_false', Bool.and_eq_true] at h
  exact ⟨by simpa using h.2.1, List.all_eq_true.mp h.2.2⟩

/-- **A written name is read back**, quoted or not. -/
theorem readValue?_renderName {name : String} (hne : name ≠ "") (hquote : '"' ∉ name.toList)
    (hrest : EndsLeaf rest) : readValue? (renderName name ++ rest) = some (name.toList, rest) := by
  by_cases hneeds : needsQuotes name.toList = true
  · rw [renderName, if_pos hneeds, List.cons_append, List.cons_append, readValue?_quote,
      readQuoted?_eq_some_iff]
    exact ⟨mt String.toList_eq_nil_iff.mp hne, hquote, Or.inl (by simp)⟩
  · obtain ⟨hnil, hname⟩ := ne_nil_and_isNameChar_of_needsQuotes (Bool.eq_false_iff.mpr hneeds)
    rw [renderName, if_neg hneeds, readValue?_name, readName?_eq_some_iff]
    · exact ⟨hnil, rfl, hname, fun c hc => (hrest c hc).1⟩
    · obtain ⟨c, cs, hcs⟩ := List.exists_cons_of_ne_nil hnil
      rw [hcs]
      rintro hc
      obtain rfl : c = '"' := by simpa using hc
      exact hquote (by rw [hcs]; exact List.mem_cons_self)

theorem scanKeyed?_eq_some (key : String) (make : String → Leaf)
    (hkey : key.toList.map Char.toLower = key.toList) {name : List Char}
    (h : readValue? cs = some (name, rest)) :
    scanKeyed? key make (key.toList ++ cs) = some (.leaf (make (String.ofList name)), rest) := by
  have hdrop : dropWord? key.toList (key.toList ++ cs) = some cs :=
    dropWord?_eq_some_iff.mpr ⟨_, rfl, hkey⟩
  simp [scanKeyed?, hdrop, h]

theorem scanWord?_tag {name : List Char} (h : readValue? cs = some (name, rest)) :
    scanWord? ("tag:".toList ++ cs) = some (.leaf (.tag (String.ofList name)), rest) := by
  have hand : scanKeyword? "and" .and ("tag:".toList ++ cs) = none := rfl
  have hor : scanKeyword? "or" .or ("tag:".toList ++ cs) = none := rfl
  have hnot : scanKeyword? "not" .not ("tag:".toList ++ cs) = none := rfl
  have hread := scanKeyed?_eq_some "tag:" .tag (by decide) h
  simp only [scanWord?, hand, hor, hnot, hread, Option.orElse_eq_orElse, Option.orElse_eq_or,
    Option.none_or, Option.some_or]

theorem scanWord?_folder {name : List Char} (h : readValue? cs = some (name, rest)) :
    scanWord? ("folder:".toList ++ cs) = some (.leaf (.folder (String.ofList name)), rest) := by
  have hand : scanKeyword? "and" .and ("folder:".toList ++ cs) = none := rfl
  have hor : scanKeyword? "or" .or ("folder:".toList ++ cs) = none := rfl
  have hnot : scanKeyword? "not" .not ("folder:".toList ++ cs) = none := rfl
  have htag : scanKeyed? "tag:" .tag ("folder:".toList ++ cs) = none := rfl
  have hread := scanKeyed?_eq_some "folder:" .folder (by decide) h
  simp only [scanWord?, hand, hor, hnot, htag, hread, Option.orElse_eq_orElse, Option.orElse_eq_or,
    Option.none_or, Option.some_or]

theorem scanWord?_pinned (flag : Bool) (hend : endsWord rest = true) :
    scanWord? ((Leaf.pinned flag).render ++ rest) = some (.leaf (.pinned flag), rest) := by
  have hand : scanKeyword? "and" .and ((Leaf.pinned flag).render ++ rest) = none := by
    cases flag <;> rfl
  have hor : scanKeyword? "or" .or ((Leaf.pinned flag).render ++ rest) = none := by
    cases flag <;> rfl
  have hnot : scanKeyword? "not" .not ((Leaf.pinned flag).render ++ rest) = none := by
    cases flag <;> rfl
  have htag : scanKeyed? "tag:" .tag ((Leaf.pinned flag).render ++ rest) = none := by
    cases flag <;> rfl
  have hfolder : scanKeyed? "folder:" .folder ((Leaf.pinned flag).render ++ rest) = none := by
    cases flag <;> rfl
  simp only [scanWord?, hand, hor, hnot, htag, hfolder, Option.orElse_eq_orElse,
    Option.orElse_eq_or, Option.none_or]
  cases flag with
  | true =>
    have hread := scanKeyword?_eq_some "pinned:true" (.leaf (.pinned true)) (Leaf.pinned true).render
      (by decide) hend
    rw [hread, Option.some_or]
  | false =>
    have htrue : scanKeyword? "pinned:true" (.leaf (.pinned true))
        ((Leaf.pinned false).render ++ rest) = none := rfl
    have hread := scanKeyword?_eq_some "pinned:false" (.leaf (.pinned false)) (Leaf.pinned false).render
      (by decide) hend
    rw [htrue, hread, Option.none_or, Option.some_or]

theorem scanKeyword?_term {term : List Char} (hterm : IsTerm term) (hrest : EndsLeaf rest)
    (word : String) (token : Token) (hword : word.toList ∈ operatorWords) :
    scanKeyword? word token (term ++ rest) = none := by
  rw [scanKeyword?, dropWholeWord?_operator_eq_none hterm hword hrest]
  rfl

/-- **A term is read as a term**: no operator stands there, and a key would need a colon. -/
theorem scanWord?_term {term : List Char} (hterm : IsTerm term) (hrest : EndsLeaf rest) :
    scanWord? (term ++ rest) = some (.leaf (.text (String.ofList term)), rest) := by
  have hkey : ∀ word ∈ keys, dropWord? word (term ++ rest) = none := fun word hword =>
    dropWord?_key_eq_none hterm.2.1 hword hrest
  have hand := scanKeyword?_term hterm hrest "and" .and (by decide)
  have hor := scanKeyword?_term hterm hrest "or" .or (by decide)
  have hnot := scanKeyword?_term hterm hrest "not" .not (by decide)
  have htag : scanKeyed? "tag:" .tag (term ++ rest) = none := by
    rw [scanKeyed?, hkey _ (by simp [keys])]
    rfl
  have hfolder : scanKeyed? "folder:" .folder (term ++ rest) = none := by
    rw [scanKeyed?, hkey _ (by simp [keys])]
    rfl
  have htrue : scanKeyword? "pinned:true" (.leaf (.pinned true)) (term ++ rest) = none := by
    rw [scanKeyword?, dropWholeWord?, hkey _ (by simp [keys])]
    rfl
  have hfalse : scanKeyword? "pinned:false" (.leaf (.pinned false)) (term ++ rest) = none := by
    rw [scanKeyword?, dropWholeWord?, hkey _ (by simp [keys])]
    rfl
  have hread : readName? (term ++ rest) = some (term, rest) :=
    readName?_eq_some_iff.mpr ⟨hterm.1, rfl, hterm.2.1, fun c hc => (hrest c hc).1⟩
  simp only [scanWord?, hand, hor, hnot, htag, hfolder, htrue, hfalse, scanTerm?, hread,
    Option.orElse_eq_orElse, Option.orElse_eq_or, Option.none_or, Option.map_some]

/-- **A written leaf is the next token.** -/
theorem scan_render_leaf {l : Leaf} (hl : l.Spellable) (hrest : EndsLeaf rest) :
    scan (l.render ++ rest) = .leaf l :: scan rest := by
  cases l with
  | tag name =>
    have hread := scanWord?_tag (readValue?_renderName hl.1 hl.2 hrest)
    rw [String.ofList_toList] at hread
    have hleaf : (Leaf.tag name).render ++ rest = "tag:".toList ++ (renderName name ++ rest) :=
      List.append_assoc ..
    rw [hleaf]
    exact scan_of_scanWord? (by decide) (by decide) hread
  | folder name =>
    have hread := scanWord?_folder (readValue?_renderName hl.1 hl.2 hrest)
    rw [String.ofList_toList] at hread
    have hleaf : (Leaf.folder name).render ++ rest =
        "folder:".toList ++ (renderName name ++ rest) := List.append_assoc ..
    rw [hleaf]
    exact scan_of_scanWord? (by decide) (by decide) hread
  | text term =>
    have hread := scanWord?_term hl hrest
    rw [String.ofList_toList] at hread
    obtain ⟨c, cs, hcs⟩ := List.exists_cons_of_ne_nil hl.1
    have hc : isNameChar c = true := hl.2.1 c (by rw [hcs]; exact List.mem_cons_self)
    have hleaf : (Leaf.text term).render ++ rest = c :: (cs ++ rest) :=
      congrArg (· ++ rest) hcs
    rw [hleaf]
    rw [hcs] at hread
    -- a word is read here, because no name character is a blank or a parenthesis
    refine scan_of_scanWord? ?_ ⟨?_, ?_⟩ hread
    · refine Bool.eq_false_iff.mpr fun hblank => ?_
      rw [isNameChar_eq_false_of_isBlank hblank] at hc
      exact absurd hc (by decide)
    · rintro rfl
      exact absurd hc (by decide +kernel)
    · rintro rfl
      exact absurd hc (by decide +kernel)
  | pinned flag =>
    have hread := scanWord?_pinned flag hrest.endsWord
    cases flag with
    | true => exact scan_of_scanWord? (by decide) (by decide) hread
    | false => exact scan_of_scanWord? (by decide) (by decide) hread

/-! ### A written expression -/

/-- Parentheses around a text are parentheses around its tokens. -/
theorem scan_parenthesized {ts : List Token} (needed : Bool)
    (h : ∀ rest, EndsLeaf rest → scan (cs ++ rest) = ts ++ scan rest) (hrest : EndsLeaf rest) :
    scan (parenthesized needed cs ++ rest) = grouped needed ts ++ scan rest := by
  cases needed with
  | false => exact h rest hrest
  | true =>
    -- inside the parentheses the text is followed by the closing one, at which a leaf ends
    have hin := h (')' :: rest) (endsLeaf_closeParen rest)
    have hopen : parenthesized true cs ++ rest = '(' :: (cs ++ ')' :: rest) := by
      simp [parenthesized]
    rw [hopen, scan_openParen, hin, scan_closeParen]
    simp [grouped]

/-- **The text of a spellable expression scans into its tokens**, whatever follows. -/
theorem scan_render {e : Expr} (he : e.Spellable) (hrest : EndsLeaf rest) :
    scan (e.render ++ rest) = e.spell ++ scan rest := by
  induction e generalizing rest with
  | leaf l => exact scan_render_leaf (he l (by simp [Expr.leaves])) hrest
  | and l r ihl ihr =>
    have hl : l.Spellable := fun x hx => he x (List.mem_append_left _ hx)
    have hr : r.Spellable := fun x hx => he x (List.mem_append_right _ hx)
    have hright := scan_parenthesized r.isAnd (fun rest => ihr hr) hrest
    calc scan ((Expr.and l r).render ++ rest)
        = scan (l.render ++ (" AND ".toList ++ (parenthesized r.isAnd r.render ++ rest))) := by
          rw [Expr.render, List.append_assoc, List.append_assoc]
      _ = l.spell ++ scan (" AND ".toList ++ (parenthesized r.isAnd r.render ++ rest)) :=
          ihl hl (endsLeaf_space _)
      _ = l.spell ++ .and :: (grouped r.isAnd r.spell ++ scan rest) := by rw [scan_and, hright]
      _ = (Expr.and l r).spell ++ scan rest := by
          rw [Expr.spell, List.append_assoc, List.cons_append]
  | or l r ihl ihr =>
    have hl : l.Spellable := fun x hx => he x (List.mem_append_left _ hx)
    have hr : r.Spellable := fun x hx => he x (List.mem_append_right _ hx)
    refine scan_parenthesized true (fun rest hrest => ?_) hrest
    calc scan (l.render ++ " OR ".toList ++ r.render ++ rest)
        = scan (l.render ++ (" OR ".toList ++ (r.render ++ rest))) := by
          rw [List.append_assoc, List.append_assoc]
      _ = l.spell ++ scan (" OR ".toList ++ (r.render ++ rest)) := ihl hl (endsLeaf_space _)
      _ = l.spell ++ .or :: (r.spell ++ scan rest) := by rw [scan_or, ihr hr hrest]
      _ = l.spell ++ .or :: r.spell ++ scan rest := by rw [List.append_assoc, List.cons_append]
  | not e ih =>
    have hinner := scan_parenthesized (e.isAnd || e.isNot) (fun rest => ih he) hrest
    simp only [Expr.render, Expr.spell, List.append_assoc, List.cons_append]
    rw [scan_not, hinner]

end NoteSearch
