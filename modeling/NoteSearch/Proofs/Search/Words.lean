import NoteSearch.Proofs.Query.Spelling
import NoteSearch.Proofs.Search.Algebra
import NoteSearch.Proofs.Search.Casing

/-!
# Looking for a word

A word of a query asks for the notes that have it in their title or in their body, in either case of the
ASCII letters. The engine looks for it with a pattern, and two of its limits show.

* **A text ends at its first NUL** for the engine, so that a word after a NUL is not seen.
* **A pattern has a size.** The pattern of a word has the bytes of the word, one more for each underscore in
  it, and two for its ends; a word that is larger than a pattern can be has no result at all, in a store with
  a note to look at.

There is nothing else: the characters that the engine reads as others are no part of a word. So a note is
found by a word exactly when the pattern of the word is within the limit and the word occurs in the title or
in the body, before any NUL (`NoteSearch.Database.search_word_iff`).
-/

namespace NoteSearch

open Text

/-! ### Words in texts -/

/-- **A word occurs in a text**, in either case of the ASCII letters. -/
def OccursIn (w t : String) : Prop :=
  (foldCase w).toList <:+: (foldCase t).toList

instance (w t : String) : Decidable (OccursIn w t) :=
  inferInstanceAs (Decidable (_ <:+: _))

/-- **The part of a text before its first NUL.** -/
def beforeNul (t : String) : String :=
  String.ofList (t.toList.takeWhile (· != '\x00'))

/-- It is the whole of a text without NUL. -/
theorem beforeNul_of_not_mem {t : String} (h : '\x00' ∉ t.toList) : beforeNul t = t := by
  have hall : ∀ c ∈ t.toList, (c != '\x00') = true := fun c hc => bne_iff_ne.mpr fun heq => h (heq ▸ hc)
  rw [beforeNul, List.takeWhile_eq_self_iff.mpr hall, String.ofList_toList]

/-- **A word is made of name characters.** -/
theorem isNameChar_of_tokens_eq {w : String} (hw : tokens w = [.leaf (.text w)]) :
    ∀ c ∈ w.toList, isNameChar c = true := by
  have hmem : .leaf (.text w) ∈ scan w.toList := by
    rw [← tokens, hw]
    exact List.mem_singleton_self _
  have hterm : IsTerm w.toList := spellable_of_mem_scan hmem
  exact hterm.2.1

/-- A word is read as the term that it is. -/
theorem ofText?_of_tokens_eq {w : String} (hw : tokens w = [.leaf (.text w)]) :
    Expr.ofText? w = some (.leaf (.text w)) := by
  rw [Expr.ofText?, hw]
  exact Grammar.Derives.ofTokens? (.conjunction (.operand (.plain (.leaf (.text w)))))

namespace Like

/-! ### What a comparison reads of a word -/

/-- A name character is read as it is. -/
theorem seen_of_isNameChar {c : Char} (hc : isNameChar c = true) : seen c = c := by
  refine if_neg fun h => ?_
  rw [Bool.or_eq_true, beq_iff_eq, beq_iff_eq] at h
  rcases h with rfl | rfl
  · exact absurd hc (by decide +kernel)
  · exact absurd hc (by decide +kernel)

theorem map_seen_of_isNameChar {cs : List Char} (h : ∀ c ∈ cs, isNameChar c = true) : cs.map seen = cs :=
  (List.map_congr_left fun c hc => seen_of_isNameChar (h c hc)).trans (List.map_id cs)

/-- Nothing else is read as a name character. -/
theorem eq_of_seen_eq {c d : Char} (hc : isNameChar c = true) (h : seen d = c) : d = c := by
  unfold seen at h
  split at h
  · rw [← h] at hc
    exact absurd hc (by decide +kernel)
  · exact h

/-- **A part made of name characters** is in what is read of a text exactly when it is in the text. -/
theorem isInfix_map_seen_iff {part cs : List Char} (hpart : ∀ c ∈ part, isNameChar c = true) :
    part <:+: cs.map seen ↔ part <:+: cs := by
  constructor
  · rintro ⟨before, after, h⟩
    obtain ⟨xs, after', rfl, hxs, -⟩ := List.map_eq_append_iff.mp h.symm
    obtain ⟨before', part', rfl, -, hread⟩ := List.map_eq_append_iff.mp hxs
    -- what is read as the part is the part
    have hsame : part' = part := by
      rw [← hread]
      refine (List.map_id _).symm.trans (List.map_congr_left fun d hd => ?_)
      have hd' : isNameChar (seen d) = true := hpart _ (hread ▸ List.mem_map_of_mem hd)
      exact eq_of_seen_eq hd' rfl
    exact ⟨before', after', by rw [hsame]⟩
  · intro h
    rw [← map_seen_of_isNameChar hpart]
    exact h.map seen

/-- **A word is found in a text** exactly when it occurs there before any NUL. -/
theorem finds_iff {w t : String} (hw : ∀ c ∈ w.toList, isNameChar c = true) :
    finds w.toList t.toList = true ↔ OccursIn w (beforeNul t) := by
  have hnul : '\x00' ∉ w.toList := fun h => absurd (hw _ h) (by decide +kernel)
  have hfold : ∀ c ∈ w.toList.map Char.toLower, isNameChar c = true := by
    rintro c hc
    obtain ⟨d, hd, rfl⟩ := List.mem_map.mp hc
    rw [isNameChar_toLower]
    exact hw d hd
  have hcase : ∀ cs : List Char, (cs.map seen).map Char.toLower = (cs.map Char.toLower).map seen := by
    intro cs
    rw [List.map_map, List.map_map]
    exact List.map_congr_left fun c _ => (seen_toLower c).symm
  rw [finds_eq hnul, map_seen_of_isNameChar hw, hasInfix_eq_true_iff, visible, hcase,
    isInfix_map_seen_iff hfold, OccursIn, toList_foldCase, toList_foldCase, beforeNul, String.toList_ofList]

/-! ### The size of the pattern of a word -/

/-- Marking adds a character for each that is special. -/
theorem utf8Len_marked (term : List Char) :
    String.utf8Len (marked term) = String.utf8Len term + term.countP isSpecial := by
  induction term with
  | nil => rfl
  | cons c term ih =>
    cases hc : isSpecial c with
    | true =>
      rw [marked_cons_of_special hc, List.countP_cons_of_pos hc, String.utf8Len_cons, String.utf8Len_cons,
        String.utf8Len_cons, ih]
      have hslash : '/'.utf8Size = 1 := rfl
      omega
    | false =>
      rw [marked_cons_of_not_special hc, List.countP_cons_of_neg (by simp [hc]), String.utf8Len_cons,
        String.utf8Len_cons, ih]
      omega

/-- **The pattern of a word is within the limit** when the word is, with each underscore counted twice and
two bytes for its ends. -/
theorem fitting_iff {w : String} (hw : ∀ c ∈ w.toList, isNameChar c = true) :
    Fitting w ↔ w.utf8ByteSize + w.toList.count '_' + 2 ≤ maxBytes := by
  have hspecial : ∀ c ∈ w.toList, isSpecial c = true ↔ (c == '_') = true := by
    intro c hc
    have hslash : c ≠ '/' := by
      rintro rfl
      exact absurd (hw _ hc) (by decide +kernel)
    have hpercent : c ≠ '%' := by
      rintro rfl
      exact absurd (hw _ hc) (by decide +kernel)
    simp [isSpecial, hslash, hpercent]
  have hsize : (String.ofList (containing w.toList)).utf8ByteSize
      = w.utf8ByteSize + w.toList.count '_' + 2 := by
    have hend : '%'.utf8Size = 1 := rfl
    have hword : String.utf8Len w.toList = w.utf8ByteSize := by
      rw [← String.utf8ByteSize_ofList, String.ofList_toList]
    rw [String.utf8ByteSize_ofList, containing, List.cons_append, String.utf8Len_cons,
      String.utf8Len_append, utf8Len_marked, List.countP_congr hspecial, hword, String.utf8Len_cons,
      String.utf8Len_nil, List.count]
    omega
  rw [Fitting, hsize]

end Like

/-! ### Searching for a word -/

variable {s : Store} {n : Note} {w : String}

/-- A row whose condition cannot be tested makes the selection fail, if there is a row at all. -/
theorem selectRows_eq_error {α ε : Type} {test : α → Except ε Bool} {fault : ε} {rows : List α}
    (hne : rows ≠ []) (h : ∀ a ∈ rows, test a = .error fault) : selectRows test rows = .error fault := by
  cases rows with
  | nil => exact absurd rfl hne
  | cons a rows =>
    unfold selectRows
    rw [h a List.mem_cons_self]
    rfl

namespace Database

/-- The condition of a word is taken, whatever the word is. -/
theorem taken_text (w : String) : (Predicate.ofExpr (.leaf (.text w))).Taken :=
  Predicate.taken_ofExpr_iff.mpr rfl

/-- **What a word finds**, when its pattern is within the limit. -/
theorem search_text (hw : ∀ c ∈ w.toList, isNameChar c = true) (hfit : Like.Fitting w) :
    (holding s).search (some (.leaf (.text w)))
      = .ok ((s.active.filter fun n => OccursIn w (beforeNul n.title) ∨ OccursIn w (beforeNul n.body)).map
          s.view) := by
  have hfitting : (Expr.leaf (.text w)).Fitting := by
    intro term h
    cases List.mem_singleton.mp h
    exact hfit
  refine (fetchMatching_ofExpr hfitting (taken_text w)).trans ?_
  refine congrArg (fun p => Except.ok ((s.active.filter p).map s.view)) (funext fun n => ?_)
  show (Like.finds w.toList n.title.toList || Like.finds w.toList n.body.toList) = _
  rw [Bool.eq_iff_iff, Bool.or_eq_true, Like.finds_iff hw, Like.finds_iff hw, decide_eq_true_iff]

/-- **A word beyond the limit** has no result, if there is a note to look at. -/
theorem search_text_eq_error (hn : n ∈ s.active) (hfit : ¬Like.Fitting w) :
    (holding s).search (some (.leaf (.text w))) = .error (.unreadable .note .patternTooLong) := by
  have htest : ∀ m, (Condition.mentions w).test s m = .error .patternTooLong := by
    intro m
    show (Like.test (Like.containing w.toList) m.title.toList >>= _) = _
    rw [Like.test, if_pos (Nat.lt_of_not_le hfit)]
    rfl
  have hrows : selectRows ((Condition.mentions w).test s) s.active = .error .patternTooLong :=
    selectRows_eq_error (List.ne_nil_of_mem hn) fun m _ => htest m
  show ((s.fetchWhere (.mentions w)).mapError (DatabaseFault.unreadable .note)) = _
  rw [Store.fetchWhere, hrows]
  rfl

/-- **A note is found by a word** exactly when the pattern of the word is within the limit and the word occurs
in the title or in the body, before any NUL; and a search for a word that is within the limit has a result, so
that it misses no note without NUL in which the word occurs. Beyond the limit, it fails. -/
theorem search_word_iff (hs : s.Keyed) (hn : n ∈ s.active) (hw : tokens w = [.leaf (.text w)]) :
    ((∃ notes, (holding s).search (Expr.ofText? w) = .ok notes ∧ s.view n ∈ notes)
        ↔ w.utf8ByteSize + w.toList.count '_' + 2 ≤ Like.maxBytes
          ∧ (OccursIn w (beforeNul n.title) ∨ OccursIn w (beforeNul n.body)))
      ∧ (w.utf8ByteSize + w.toList.count '_' + 2 ≤ Like.maxBytes →
          '\x00' ∉ n.title.toList → '\x00' ∉ n.body.toList → OccursIn w n.title ∨ OccursIn w n.body →
          ∃ notes, (holding s).search (Expr.ofText? w) = .ok notes ∧ s.view n ∈ notes)
      ∧ (Like.maxBytes < w.utf8ByteSize + w.toList.count '_' + 2 →
          (holding s).search (Expr.ofText? w) = .error (.unreadable .note .patternTooLong)) := by
  have hname := isNameChar_of_tokens_eq hw
  have hread := ofText?_of_tokens_eq hw
  have hfound : (∃ notes, (holding s).search (Expr.ofText? w) = .ok notes ∧ s.view n ∈ notes)
      ↔ w.utf8ByteSize + w.toList.count '_' + 2 ≤ Like.maxBytes
        ∧ (OccursIn w (beforeNul n.title) ∨ OccursIn w (beforeNul n.body)) := by
    rw [hread, ← Like.fitting_iff hname]
    constructor
    · rintro ⟨notes, hsearch, hmem⟩
      by_cases hfit : Like.Fitting w
      · rw [search_text hname hfit] at hsearch
        cases hsearch
        exact ⟨hfit, of_decide_eq_true ((hs.mem_map_view_filter hn _).mp hmem)⟩
      · rw [search_text_eq_error hn hfit] at hsearch
        cases hsearch
    · rintro ⟨hfit, hoccurs⟩
      exact ⟨_, search_text hname hfit, (hs.mem_map_view_filter hn _).mpr (decide_eq_true hoccurs)⟩
  refine ⟨hfound, fun hfit htitle hbody hoccurs => ?_, fun hsize => ?_⟩
  · rw [hfound, beforeNul_of_not_mem htitle, beforeNul_of_not_mem hbody]
    exact ⟨hfit, hoccurs⟩
  · rw [hread]
    exact search_text_eq_error hn fun hfit => absurd ((Like.fitting_iff hname).mp hfit) (Nat.not_le.mpr hsize)

/-- Two notes with the same word in their titles, in either case, and a NUL before it in one of them. -/
def snakes : Store where
  notes := [⟨1, "100% Snake_Case", "", none, false, .epoch, .epoch, none⟩,
    ⟨2, "\x00snake_case", "", none, false, .epoch, .epoch, none⟩]

theorem active_snakes : snakes.active = [snakes.notes[1], snakes.notes[0]] := by
  cbv

/-- An underscore in a word stands for itself. -/
theorem search_word_underscore :
    let n := snakes.notes[0]
    snakes.Keyed ∧ n ∈ snakes.active ∧ tokens "KE_c" = [.leaf (.text "KE_c")] ∧ OccursIn "KE_c" n.title
      ∧ ∃ notes, (holding snakes).search (Expr.ofText? "KE_c") = .ok notes ∧ snakes.view n ∈ notes := by
  intro n
  have hkeyed : snakes.Keyed := ⟨by decide, by decide, by decide⟩
  have hn : n ∈ snakes.active := by
    rw [active_snakes]
    exact .tail _ (.head _)
  have hw : tokens "KE_c" = [.leaf (.text "KE_c")] := by decide +kernel
  have hoccurs : OccursIn "KE_c" n.title := by decide
  exact ⟨hkeyed, hn, hw, hoccurs,
    (search_word_iff hkeyed hn hw).2.1 (by decide) (by decide) (by decide) (.inl hoccurs)⟩

/-- **A word after a NUL is missed**: the word occurs in the title, and the search does not find the note. -/
theorem search_word_nul :
    let n := snakes.notes[1]
    snakes.Keyed ∧ n ∈ snakes.active ∧ tokens "snake_case" = [.leaf (.text "snake_case")]
      ∧ OccursIn "snake_case" n.title
      ∧ ∃ notes, (holding snakes).search (Expr.ofText? "snake_case") = .ok notes ∧ snakes.view n ∉ notes := by
  intro n
  have hkeyed : snakes.Keyed := ⟨by decide, by decide, by decide⟩
  have hn : n ∈ snakes.active := by
    rw [active_snakes]
    exact .head _
  have hw : tokens "snake_case" = [.leaf (.text "snake_case")] := by decide +kernel
  have hname := isNameChar_of_tokens_eq hw
  refine ⟨hkeyed, hn, hw, by decide, ?_⟩
  rw [ofText?_of_tokens_eq hw, search_text hname ((Like.fitting_iff hname).mpr (by decide))]
  refine ⟨_, rfl, fun hmem => ?_⟩
  exact absurd (of_decide_eq_true ((hkeyed.mem_map_view_filter hn _).mp hmem)) (by decide)

end Database

end NoteSearch
