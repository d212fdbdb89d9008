import NoteSearch.Proofs.Snippet.Ink

/-!
# A preview is one line

The last two rules squeeze runs of characters: newlines first, then blanks of all kinds. What the rules
before them have left does not matter. After the first squeeze there is no newline, and the second writes
none (`NoteSearch.Snippet.not_mem_substitute_squeeze`); after the second no two blanks stand side by side
(`NoteSearch.Snippet.separated_substitute_squeeze`). So a plain text is tidy once it is trimmed, and whatever
start of it is shown is tidy too.

Where there are no runs to squeeze, but single characters, the outcome is known exactly: the first squeeze
replaces them one by one, and the second does nothing.
-/

namespace NoteSearch.Snippet

open Text

variable {p : Char → Bool} {least : Nat} {lineStart : Bool} {c : Char} {cs ds : List Char} {n : Int}

/-! ### Runs -/

theorem runLength_cons_of_pos (h : p c = true) : runLength p (c :: cs) = runLength p cs + 1 := by
  rw [runLength, List.takeWhile_cons_of_pos h, List.length_cons, runLength]

theorem runLength_eq_zero (h : ∀ c ∈ cs.head?, p c = false) : runLength p cs = 0 := by
  cases cs with
  | nil => rfl
  | cons c cs => rw [runLength, List.takeWhile_cons_of_neg (by simp [h c rfl]), List.length_nil]

theorem drop_runLength (p : Char → Bool) (cs : List Char) : cs.drop (runLength p cs) = cs.dropWhile p := by
  have h : (cs.takeWhile p ++ cs.dropWhile p).drop (cs.takeWhile p).length = cs.dropWhile p :=
    List.drop_left
  rwa [List.takeWhile_append_dropWhile] at h

/-- No character of the class follows a run. -/
theorem apply_of_mem_head?_drop_runLength (h : c ∈ (cs.drop (runLength p cs)).head?) : p c = false := by
  rw [drop_runLength] at h
  exact ((takeWhile_dropWhile_iff cs p).mp ⟨rfl, rfl⟩).2.2 c h

/-! ### Squeezing -/

theorem squeeze_eq_none_iff : squeeze p least lineStart cs = none ↔ runLength p cs < least := by
  rw [squeeze, ite_eq_right_iff, ← Nat.not_le]
  simp

theorem squeeze_eq_some_iff {s : Stretch} :
    squeeze p least lineStart cs = some s ↔ least ≤ runLength p cs ∧ s = ⟨runLength p cs, [' ']⟩ := by
  rw [squeeze, Option.ite_none_right_eq_some, Option.some.injEq, eq_comm (a := s)]

/-- A run that is squeezed starts with a character of the class, and what follows it does not. -/
theorem squeezed_cons (hleast : 1 ≤ least) (h : least ≤ runLength p (c :: cs)) :
    p c = true ∧ ∀ d ∈ (cs.drop (runLength p (c :: cs) - 1)).head?, p d = false := by
  cases hc : p c with
  | false =>
    rw [runLength_eq_zero (by simp [hc])] at h
    omega
  | true =>
    rw [runLength_cons_of_pos hc, Nat.add_sub_cancel]
    exact ⟨rfl, fun d hd => apply_of_mem_head?_drop_runLength hd⟩

/-- Squeezing leaves the first character alone, if it is not in the class. -/
theorem head?_substitute_squeeze (hleast : 1 ≤ least) (h : ∀ c ∈ cs.head?, p c = false) :
    (substitute (squeeze p least) lineStart cs).head? = cs.head? := by
  cases cs with
  | nil => rw [substitute_nil]
  | cons c cs =>
    have hrun : runLength p (c :: cs) < least := by
      rw [runLength_eq_zero h]
      exact hleast
    rw [substitute_cons_none (squeeze_eq_none_iff.mpr hrun), List.head?_cons, List.head?_cons]

/-- **Nothing is left of a class whose every run is squeezed**, but the single spaces. -/
theorem not_mem_substitute_squeeze (hc : p c = true) (hspace : c ≠ ' ') (lineStart : Bool)
    (cs : List Char) : c ∉ substitute (squeeze p 1) lineStart cs := by
  induction lineStart, cs using substitute.induct (squeeze p 1) with
  | case1 lineStart => simp
  | case2 lineStart d ds hnone ih =>
    rw [squeeze_eq_none_iff] at hnone
    rw [substitute_cons_none (squeeze_eq_none_iff.mpr hnone), List.mem_cons, not_or]
    refine ⟨?_, ih⟩
    -- a character of the class is a run already
    rintro rfl
    rw [runLength_cons_of_pos hc] at hnone
    omega
  | case3 lineStart d ds s hsome ih =>
    rw [substitute_cons_some hsome, List.mem_append, not_or]
    obtain ⟨-, rfl⟩ := squeeze_eq_some_iff.mp hsome
    exact ⟨by simpa using hspace, ih⟩

/-- Squeezing writes spaces, and otherwise only what was there. -/
theorem mem_of_mem_substitute_squeeze (h : c ∈ substitute (squeeze p least) lineStart cs) :
    c = ' ' ∨ c ∈ cs := by
  induction lineStart, cs using substitute.induct (squeeze p least) with
  | case1 lineStart => simp at h
  | case2 lineStart d ds hnone ih =>
    rw [substitute_cons_none hnone, List.mem_cons] at h
    rcases h with rfl | h
    · exact Or.inr List.mem_cons_self
    · exact (ih h).imp_right (List.mem_cons_of_mem d)
  | case3 lineStart d ds s hsome ih =>
    rw [substitute_cons_some hsome, List.mem_append] at h
    obtain ⟨-, rfl⟩ := squeeze_eq_some_iff.mp hsome
    rcases h with h | h
    · exact Or.inl (List.mem_singleton.mp h)
    · exact (ih h).imp_right fun hmem => List.mem_cons_of_mem d (List.mem_of_mem_drop hmem)

/-- **After squeezing the runs of two and more, characters of the class are single**, also the space that is
written, since what follows a whole run is not in the class. -/
theorem separated_substitute_squeeze (p : Char → Bool) (lineStart : Bool) (cs : List Char) :
    Separated p (substitute (squeeze p 2) lineStart cs) := by
  induction lineStart, cs using substitute.induct (squeeze p 2) with
  | case1 lineStart =>
    rw [substitute_nil]
    exact separated_nil
  | case2 lineStart c cs hnone ih =>
    rw [substitute_cons_none hnone]
    refine ih.cons fun hc d hd => ?_
    rw [squeeze_eq_none_iff, runLength_cons_of_pos hc] at hnone
    -- a run of two would have been squeezed, so the next character is not in the class, and stays first
    have hnext : ∀ d ∈ cs.head?, p d = false := fun d hd => by
      refine Bool.eq_false_iff.mpr fun hpd => ?_
      obtain ⟨ds, rfl⟩ := List.head?_eq_some_iff.mp hd
      rw [runLength_cons_of_pos hpd] at hnone
      omega
    rw [head?_substitute_squeeze (by decide) hnext] at hd
    exact hnext d hd
  | case3 lineStart c cs s hsome ih =>
    rw [substitute_cons_some hsome]
    obtain ⟨hrun, rfl⟩ := squeeze_eq_some_iff.mp hsome
    obtain ⟨-, hnext⟩ := squeezed_cons (by decide) hrun
    refine ih.cons fun _ d hd => ?_
    rw [head?_substitute_squeeze (by decide) hnext] at hd
    exact hnext d hd

/-! ### Squeezing where nothing has to be squeezed -/

/-- Where the characters of the class are single, so are the runs. -/
theorem runLength_of_separated (h : Separated p (c :: cs)) (hc : p c = true) :
    runLength p (c :: cs) = 1 := by
  rw [runLength_cons_of_pos hc, runLength_eq_zero ((separated_cons_iff.mp h).1 hc)]

/-- **Single characters are not squeezed.** -/
theorem substitute_squeeze_two (h : Separated p cs) (lineStart : Bool) :
    substitute (squeeze p 2) lineStart cs = cs := by
  induction cs generalizing lineStart with
  | nil => rw [substitute_nil]
  | cons c cs ih =>
    have hrun : runLength p (c :: cs) < 2 := by
      cases hc : p c with
      | false =>
        rw [runLength_eq_zero (by simp [hc])]
        decide
      | true =>
        rw [runLength_of_separated h hc]
        decide
    rw [substitute_cons_none (squeeze_eq_none_iff.mpr hrun), ih (separated_cons_iff.mp h).2]

/-- **Where every run is squeezed, single characters become spaces.** -/
theorem substitute_squeeze_one (h : Separated p cs) (lineStart : Bool) :
    substitute (squeeze p 1) lineStart cs = cs.map fun c => if p c then ' ' else c := by
  induction cs generalizing lineStart with
  | nil => rw [substitute_nil, List.map_nil]
  | cons c cs ih =>
    have hrest (lineStart : Bool) := ih (separated_cons_iff.mp h).2 lineStart
    cases hc : p c with
    | false =>
      have hnone : squeeze p 1 lineStart (c :: cs) = none := by
        rw [squeeze_eq_none_iff, runLength_eq_zero (by simp [hc])]
        decide
      rw [substitute_cons_none hnone, hrest, List.map_cons, hc, if_neg Bool.false_ne_true]
    | true =>
      have hrun := runLength_of_separated h hc
      have hsome : squeeze p 1 lineStart (c :: cs) = some ⟨1, [' ']⟩ :=
        squeeze_eq_some_iff.mpr ⟨hrun.ge, by rw [hrun]⟩
      rw [substitute_cons_some hsome, Nat.sub_self, List.drop_zero, hrest, List.map_cons, hc, if_pos rfl]
      rfl

/-! ### Previews -/

/-- **A plain text is tidy**, and has no newline in it. -/
theorem tidy_plain (body : List Char) : Tidy (plain body) ∧ '\n' ∉ plain body := by
  let marked : List Char := substituteAll (rules.take 9) body
  let lines : List Char := substitute (squeeze (· == '\n') 1) true marked
  have hplain : plain body = trim (substitute (squeeze isBlank 2) true lines) := rfl
  have hlines : '\n' ∉ lines := not_mem_substitute_squeeze rfl (by decide) true marked
  rw [hplain]
  refine ⟨tidy_trim (separated_substitute_squeeze isBlank true lines), fun h => ?_⟩
  rcases mem_of_mem_substitute_squeeze ((trim_sublist _).subset h) with h | h
  · exact absurd h (by decide)
  · exact hlines h

/-- Dots at the end of a tidy text leave it tidy. -/
theorem tidy_append_ellipsis (h : Tidy cs) : Tidy (cs ++ ellipsis) := by
  have hdot : ∀ c ∈ ellipsis, isBlank c = false := fun c hc => by
    obtain rfl : c = '.' := by simpa [ellipsis] using hc
    decide
  refine ⟨h.separated.append (separated_of_forall hdot) fun c hc d _ hblank => ?_, fun c hc => ?_,
    fun c hc => ?_⟩
  · rw [h.last c hc] at hblank
    cases hblank
  · rw [List.head?_append, Option.mem_def, Option.or_eq_some_iff] at hc
    rcases hc with hc | ⟨-, hc⟩
    · exact h.head c hc
    · exact hdot c (List.mem_of_mem_head? hc)
  · rw [List.getLast?_append_of_ne_nil cs (by decide)] at hc
    exact hdot c (List.mem_of_mem_getLast? hc)

theorem tidy_shown (h : Tidy cs) (n : Int) : Tidy (shown n cs) := by
  rw [shown]
  split
  · exact h.trimEnd_of_isPrefix (clip_isPrefix n cs)
  · exact h

theorem tidy_truncate (h : Tidy cs) (n : Int) : Tidy (truncate n cs) := by
  rw [truncate_eq_append]
  split
  · exact tidy_append_ellipsis (tidy_shown h n)
  · rw [List.append_nil]
    exact tidy_shown h n

/-- No more is shown than was asked for. -/
theorem length_shown_le (hn : 0 ≤ n) (cs : List Char) : ((shown n cs).length : Int) ≤ n := by
  rw [shown]
  split
  · have htrim := (trimEnd_isPrefix (clip n cs)).length_le
    have hclip : (clip n cs).length ≤ n.toNat := by
      rw [clip, if_pos hn]
      exact List.length_take_le ..
    omega
  · omega

/-- With the dots, it may be three characters more. -/
theorem length_truncate_le (hn : 0 ≤ n) (cs : List Char) : ((truncate n cs).length : Int) ≤ n + 3 := by
  have hshown := length_shown_le hn cs
  have hdots : ellipsis.length = 3 := rfl
  rw [truncate_eq_append, List.length_append]
  split
  · omega
  · rw [List.length_nil]
    omega

/-- **A text that is cut ends in three dots**, and what is before them is a start of it. -/
theorem exists_prefix_of_cut (h : n < cs.length) :
    ∃ start, start <+: cs ∧ truncate n cs = start ++ ellipsis := by
  rw [truncate_eq_append]
  by_cases hdots : ellipsis <:+ shown n cs
  · obtain ⟨start, hstart⟩ := hdots
    refine ⟨start, (List.prefix_append start ellipsis).trans (hstart ▸ shown_isPrefix n cs), ?_⟩
    rw [if_neg fun h => h.2 ⟨start, hstart⟩, List.append_nil, hstart]
  · exact ⟨shown n cs, shown_isPrefix n cs, by rw [if_pos ⟨h, hdots⟩]⟩

/-- **A preview is one tidy line.** For every note and every length, also for a negative one, it has no
newline in it, no two blanks side by side and none at its ends. It is at most three characters longer than
was asked for. A plain text that is short enough is shown as it is; any other ends in three dots, and what is
before them is a start of the plain text. -/
theorem snippet_tidy_and_cut (body : String) (n : Int) :
    let text := plain body.toList
    Tidy (snippet body n).toList ∧ '\n' ∉ (snippet body n).toList ∧
      (0 ≤ n → ((snippet body n).toList.length : Int) ≤ n + 3) ∧
      ((text.length : Int) ≤ n → (snippet body n).toList = text) ∧
      (n < text.length → ∃ start, start <+: text ∧ (snippet body n).toList = start ++ ellipsis) := by
  intro text
  obtain ⟨htidy, hline⟩ := tidy_plain body.toList
  have hsnippet : (snippet body n).toList = truncate n text := String.toList_ofList
  rw [hsnippet]
  refine ⟨tidy_truncate htidy n, fun h => ?_, fun hn => length_truncate_le hn text, fun h => ?_,
    exists_prefix_of_cut⟩
  · rw [truncate_eq_append, List.mem_append] at h
    rcases h with h | h
    · exact hline ((shown_isPrefix n text).subset h)
    · split at h
      · exact absurd h (by decide)
      · exact absurd h List.not_mem_nil
  · exact if_neg (Int.not_lt.mpr h)

end NoteSearch.Snippet
