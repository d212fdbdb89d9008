import NoteSearch.Text.Split

/-!
# What splitting a text gives

The pieces of a text have no separator in them, and pieces that have none are what is left when they are
joined by a separator and split again.
-/

namespace NoteSearch.Text

variable {separates : Char → Bool} {cs : List Char}

/-- There is always a piece. -/
theorem exists_splitAt_eq_cons (separates : Char → Bool) (cs : List Char) :
    ∃ piece pieces, splitAt separates cs = piece :: pieces := by
  cases cs with
  | nil => exact ⟨[], [], rfl⟩
  | cons c cs =>
    unfold splitAt
    split
    · exact ⟨[], _, rfl⟩
    · split
      · exact ⟨[c], [], rfl⟩
      · exact ⟨_, _, rfl⟩

/-- A character that does not separate belongs to the first piece. -/
theorem splitAt_cons {c : Char} {piece : List Char} {pieces : List (List Char)}
    (hc : separates c = false) (h : splitAt separates cs = piece :: pieces) :
    splitAt separates (c :: cs) = (c :: piece) :: pieces := by
  rw [splitAt, if_neg (by simp [hc]), h]

/-- **A piece has no separator in it.** -/
theorem separates_of_mem_splitAt {piece : List Char} (h : piece ∈ splitAt separates cs) :
    ∀ c ∈ piece, separates c = false := by
  induction cs generalizing piece with
  | nil =>
    rw [splitAt, List.mem_singleton] at h
    simp [h]
  | cons c cs ih =>
    cases hc : separates c with
    | true =>
      rw [splitAt, if_pos hc, List.mem_cons] at h
      obtain rfl | h := h
      · simp
      · exact ih h
    | false =>
      obtain ⟨first, pieces, hsplit⟩ := exists_splitAt_eq_cons separates cs
      rw [splitAt_cons hc hsplit, List.mem_cons] at h
      rw [hsplit] at ih
      obtain rfl | h := h
      · exact List.forall_mem_cons.mpr ⟨hc, ih List.mem_cons_self⟩
      · exact ih (List.mem_cons_of_mem _ h)

/-- A text without a separator is one piece. -/
theorem splitAt_of_no_separator (h : ∀ c ∈ cs, separates c = false) : splitAt separates cs = [cs] := by
  induction cs with
  | nil => rfl
  | cons c cs ih =>
    rw [List.forall_mem_cons] at h
    exact splitAt_cons h.1 (ih h.2)

/-- The characters before the first separator are the first piece. -/
theorem splitAt_append_cons {piece : List Char} {c : Char} (h : ∀ d ∈ piece, separates d = false)
    (hc : separates c = true) : splitAt separates (piece ++ c :: cs) = piece :: splitAt separates cs := by
  induction piece with
  | nil => rw [List.nil_append, splitAt, if_pos hc]
  | cons d piece ih =>
    rw [List.forall_mem_cons] at h
    exact splitAt_cons h.1 (ih h.2)

/-- **A separator splits a text** into the pieces before it and the pieces after it. -/
theorem splitAt_append_separator {c : Char} (hc : separates c = true) (cs ds : List Char) :
    splitAt separates (cs ++ c :: ds) = splitAt separates cs ++ splitAt separates ds := by
  induction cs with
  | nil => exact splitAt_append_cons (List.forall_mem_nil _) hc
  | cons d cs ih =>
    cases hd : separates d with
    | true => rw [List.cons_append, splitAt, if_pos hd, splitAt, if_pos hd, ih, List.cons_append]
    | false =>
      obtain ⟨piece, pieces, hsplit⟩ := exists_splitAt_eq_cons separates cs
      rw [hsplit, List.cons_append] at ih
      rw [List.cons_append, splitAt_cons hd ih, splitAt_cons hd hsplit, List.cons_append]

/-- A text that is one piece has no separator in it. -/
theorem separates_of_length_splitAt (h : (splitAt separates cs).length = 1) :
    ∀ c ∈ cs, separates c = false := by
  intro c hc
  refine Bool.eq_false_iff.mpr fun hsep => ?_
  obtain ⟨xs, ys, rfl⟩ := List.append_of_mem hc
  obtain ⟨x, xs', hxs⟩ := exists_splitAt_eq_cons separates xs
  obtain ⟨y, ys', hys⟩ := exists_splitAt_eq_cons separates ys
  rw [splitAt_append_separator hsep, hxs, hys] at h
  simp at h

/-! ### Joined pieces -/

/-- What is in no piece and not in what joins them is not in the whole. -/
theorem not_mem_intercalate {c : Char} {sep : List Char} {pieces : List (List Char)} (hsep : c ∉ sep)
    (h : ∀ piece ∈ pieces, c ∉ piece) : c ∉ sep.intercalate pieces := by
  induction pieces with
  | nil => exact List.not_mem_nil
  | cons piece pieces ih =>
    rw [List.forall_mem_cons] at h
    by_cases hlast : pieces = []
    · rw [hlast, List.intercalate_singleton]
      exact h.1
    · rw [List.intercalate_cons_of_ne_nil hlast, List.mem_append, List.mem_append, not_or, not_or]
      exact ⟨⟨h.1, hsep⟩, ih h.2⟩

/-- Joined pieces are rewritten one by one. -/
theorem map_intercalate (f : Char → Char) (sep : List Char) (pieces : List (List Char)) :
    (sep.intercalate pieces).map f = (sep.map f).intercalate (pieces.map (List.map f)) := by
  induction pieces with
  | nil => rfl
  | cons piece pieces ih =>
    cases pieces with
    | nil => simp
    | cons next rest =>
      rw [List.intercalate_cons_cons, List.map_append, List.map_append, ih, List.map_cons, List.map_cons,
        List.map_cons, List.intercalate_cons_cons]

theorem intercalate_append {sep : List Char} {pieces pieces' : List (List Char)} (hne : pieces ≠ [])
    (hne' : pieces' ≠ []) :
    sep.intercalate (pieces ++ pieces') = sep.intercalate pieces ++ sep ++ sep.intercalate pieces' := by
  induction pieces with
  | nil => exact absurd rfl hne
  | cons piece pieces ih =>
    by_cases hlast : pieces = []
    · rw [hlast, List.singleton_append, List.intercalate_cons_of_ne_nil hne', List.intercalate_singleton]
    · rw [List.cons_append, List.intercalate_cons_of_ne_nil (List.append_ne_nil_of_left_ne_nil hlast _),
        ih hlast, List.intercalate_cons_of_ne_nil hlast]
      simp only [List.append_assoc]

/-- **Groups of pieces**, each joined and then joined with the others, are all the pieces joined. -/
theorem intercalate_map_intercalate {sep : List Char} {groups : List (List (List Char))}
    (h : ∀ group ∈ groups, group ≠ []) :
    sep.intercalate (groups.map sep.intercalate) = sep.intercalate groups.flatten := by
  induction groups with
  | nil => rfl
  | cons group groups ih =>
    rw [List.forall_mem_cons] at h
    by_cases hlast : groups = []
    · simp [hlast]
    · have hrest : groups.flatten ≠ [] := by
        obtain ⟨next, more, rfl⟩ := List.exists_cons_of_ne_nil hlast
        simp [h.2 next List.mem_cons_self]
      rw [List.map_cons, List.intercalate_cons_of_ne_nil (by simpa using hlast), ih h.2, List.flatten_cons,
        intercalate_append h.1 hrest]

/-- **Joined pieces are split again.** -/
theorem splitAt_intercalate {c : Char} (hc : separates c = true) {pieces : List (List Char)}
    (hne : pieces ≠ []) (h : ∀ piece ∈ pieces, ∀ d ∈ piece, separates d = false) :
    splitAt separates ([c].intercalate pieces) = pieces := by
  induction pieces with
  | nil => exact absurd rfl hne
  | cons piece pieces ih =>
    rw [List.forall_mem_cons] at h
    cases pieces with
    | nil =>
      rw [List.intercalate_singleton]
      exact splitAt_of_no_separator h.1
    | cons next rest =>
      rw [List.intercalate_cons_cons, List.append_assoc, List.singleton_append,
        splitAt_append_cons h.1 hc, ih (List.cons_ne_nil next rest) h.2]

end NoteSearch.Text
