import NoteSearch.Proofs.Text.Blank
import NoteSearch.Snippet.Basic

/-!
# A preview shows nothing that is not in the note

Every rule takes a stretch of the text away and writes some of it back, or a single space. So it writes no
more than it takes, and all that it writes, but for blanks, was there in the same order
(`NoteSearch.Snippet.Thrifty`). A rule does not look at the rest of the text, and substitution copies what
no rule takes, so the whole walk is as thrifty as its steps
(`NoteSearch.Snippet.Thrifty.ink_substitute_sublist`); and so are the eleven walks that make a plain text,
one after the other.

Cutting takes a start of the plain text. What is added to it are the three dots, and only where something
was cut off (`NoteSearch.Snippet.truncate_eq_append`).
-/

namespace NoteSearch.Snippet

open Text

variable {cs ds : List Char} {n : Int} {rule : Rule} {s : Stretch}

/-! ### Ink -/

/-- **The ink of a text**: its characters, without the blanks. -/
def ink (cs : List Char) : List Char :=
  cs.filter fun c => !isBlank c

@[simp] theorem ink_append (cs ds : List Char) : ink (cs ++ ds) = ink cs ++ ink ds :=
  List.filter_append ..

theorem ink_sublist (h : cs.Sublist ds) : (ink cs).Sublist (ink ds) :=
  h.filter _

/-! ### Rules that write no more than they take -/

/-- **A thrifty rule**: what it writes is no longer than what it takes, and has no ink but that of what it
takes. -/
structure Thrifty (rule : Rule) : Prop where
  /-- All ink was there before. -/
  ink_kept : ∀ {lineStart cs s}, rule lineStart cs = some s →
    (ink s.kept).Sublist (ink (cs.take s.length))
  /-- There is not more of it. -/
  length_kept : ∀ {lineStart cs s}, rule lineStart cs = some s →
    s.kept.length ≤ (cs.take s.length).length

/-- A rule that writes a part of what it takes is thrifty. -/
theorem thrifty_of_sublist
    (h : ∀ lineStart cs s, rule lineStart cs = some s → s.kept.Sublist (cs.take s.length)) :
    Thrifty rule :=
  ⟨fun hs => ink_sublist (h _ _ _ hs), fun hs => (h _ _ _ hs).length_le⟩

/-- A stretch up to some character is a part of any longer stretch. -/
theorem takeWhile_drop_sublist {p : Char → Bool} {k m : Nat}
    (h : k + ((cs.drop k).takeWhile p).length ≤ m) :
    ((cs.drop k).takeWhile p).Sublist (cs.take m) := by
  have htake := List.prefix_iff_eq_take.mp (List.takeWhile_prefix p (l := cs.drop k))
  rw [htake, List.take_drop]
  exact (List.drop_sublist _ _).trans (List.take_prefix_take_left h).sublist

theorem thrifty_heading : Thrifty heading := by
  refine thrifty_of_sublist fun lineStart cs s h => ?_
  simp only [heading, Option.ite_none_right_eq_some, Option.some.injEq] at h
  obtain ⟨-, rfl⟩ := h
  exact List.nil_sublist _

theorem thrifty_item (marker : List Char → Nat) : Thrifty (item marker) := by
  refine thrifty_of_sublist fun lineStart cs s h => ?_
  simp only [item, Option.ite_none_right_eq_some, Option.some.injEq] at h
  obtain ⟨-, rfl⟩ := h
  exact List.nil_sublist _

theorem thrifty_emphasis (mark : Char) : Thrifty (emphasis mark) := by
  refine thrifty_of_sublist fun lineStart cs s h => ?_
  simp only [emphasis, emphasized, Option.ite_none_right_eq_some, Option.some.injEq] at h
  obtain ⟨-, -, rfl⟩ := h
  exact takeWhile_drop_sublist (by dsimp only; omega)

theorem thrifty_fenced (mark : Char) (width : Nat) : Thrifty (fenced mark width) := by
  refine thrifty_of_sublist fun lineStart cs s h => ?_
  simp only [fenced, fencedBody, Option.ite_none_right_eq_some, Option.some.injEq] at h
  obtain ⟨-, -, rfl⟩ := h
  exact takeWhile_drop_sublist (by dsimp only; omega)

theorem thrifty_linked (opening : List Char) (labelled : Bool) : Thrifty (linked opening labelled) := by
  refine thrifty_of_sublist fun lineStart cs s h => ?_
  simp only [linked, linkLabel, Option.ite_none_right_eq_some, Option.some.injEq] at h
  obtain ⟨-, -, rfl⟩ := h
  exact takeWhile_drop_sublist (by dsimp only; omega)

theorem runLength_le_length (p : Char → Bool) (cs : List Char) : runLength p cs ≤ cs.length :=
  (List.takeWhile_prefix p).length_le

/-- A single space is no ink, and no more than a run of one character or more. -/
theorem thrifty_squeeze (p : Char → Bool) {least : Nat} (hleast : 1 ≤ least) :
    Thrifty (squeeze p least) := by
  have hblank : ink [' '] = [] := by decide
  refine ⟨fun {lineStart cs s} h => ?_, fun {lineStart cs s} h => ?_⟩
  all_goals
    simp only [squeeze, Option.ite_none_right_eq_some, Option.some.injEq] at h
    obtain ⟨hrun, rfl⟩ := h
  · rw [hblank]
    exact List.nil_sublist _
  · rw [List.length_take_of_le (runLength_le_length p cs)]
    exact hleast.trans hrun

/-- **All rules are thrifty.** -/
theorem thrifty_of_mem_rules (h : rule ∈ rules) : Thrifty rule := by
  simp only [rules, List.mem_cons, List.not_mem_nil, or_false] at h
  rcases h with rfl | rfl | rfl | rfl | rfl | rfl | rfl | rfl | rfl | rfl | rfl
  · exact thrifty_heading
  · exact thrifty_emphasis '*'
  · exact thrifty_emphasis '_'
  · exact thrifty_fenced '`' 1
  · exact thrifty_linked ['!', '['] false
  · exact thrifty_linked ['['] true
  · exact thrifty_item bulletWidth
  · exact thrifty_item ordinalWidth
  · exact thrifty_fenced '~' 2
  · exact thrifty_squeeze _ (by decide)
  · exact thrifty_squeeze _ (by decide)

/-! ### The whole walk -/

/-- What is taken at the start of a text, and what the walk goes on with. A stretch of no length still takes
the first character. -/
theorem take_append_drop_sublist (c : Char) (cs : List Char) (m : Nat) :
    ((c :: cs).take m ++ cs.drop (m - 1)).Sublist (c :: cs) := by
  cases m with
  | zero => exact List.sublist_cons_self c cs
  | succ m =>
    rw [List.take_succ_cons, Nat.add_sub_cancel, List.cons_append, List.take_append_drop]

/-- **Substitution by a thrifty rule has no ink of its own.** -/
theorem Thrifty.ink_substitute_sublist (h : Thrifty rule) (lineStart : Bool) (cs : List Char) :
    (ink (substitute rule lineStart cs)).Sublist (ink cs) := by
  induction lineStart, cs using substitute.induct rule with
  | case1 lineStart => rw [substitute_nil]
  | case2 lineStart c cs hnone ih =>
    rw [substitute_cons_none hnone, ← List.singleton_append, ← List.singleton_append (l := cs),
      ink_append, ink_append]
    exact (List.Sublist.refl _).append ih
  | case3 lineStart c cs s hsome ih =>
    rw [substitute_cons_some hsome, ink_append]
    refine ((h.ink_kept hsome).append ih).trans ?_
    rw [← ink_append]
    exact ink_sublist (take_append_drop_sublist c cs s.length)

/-- **And it does not make a text longer.** -/
theorem Thrifty.length_substitute_le (h : Thrifty rule) (lineStart : Bool) (cs : List Char) :
    (substitute rule lineStart cs).length ≤ cs.length := by
  induction lineStart, cs using substitute.induct rule with
  | case1 lineStart => rw [substitute_nil]
  | case2 lineStart c cs hnone ih =>
    rw [substitute_cons_none hnone, List.length_cons, List.length_cons]
    exact Nat.succ_le_succ ih
  | case3 lineStart c cs s hsome ih =>
    have hkept := h.length_kept hsome
    have hall := (take_append_drop_sublist c cs s.length).length_le
    rw [List.length_append] at hall
    rw [substitute_cons_some hsome, List.length_append]
    omega

/-- The text after some of the rules, one after the other. -/
def substituteAll (rs : List Rule) (cs : List Char) : List Char :=
  rs.foldl (fun cs rule => substitute rule true cs) cs

theorem ink_substituteAll_sublist {rs : List Rule} (h : ∀ rule ∈ rs, Thrifty rule) (cs : List Char) :
    (ink (substituteAll rs cs)).Sublist (ink cs) := by
  induction rs generalizing cs with
  | nil => exact List.Sublist.refl _
  | cons rule rs ih =>
    rw [List.forall_mem_cons] at h
    exact (ih h.2 _).trans (h.1.ink_substitute_sublist true cs)

theorem length_substituteAll_le {rs : List Rule} (h : ∀ rule ∈ rs, Thrifty rule) (cs : List Char) :
    (substituteAll rs cs).length ≤ cs.length := by
  induction rs generalizing cs with
  | nil => exact Nat.le_refl _
  | cons rule rs ih =>
    rw [List.forall_mem_cons] at h
    exact (ih h.2 _).trans (h.1.length_substitute_le true cs)

/-- **The ink of a plain text** is ink of the note. -/
theorem ink_plain_sublist (body : List Char) : (ink (plain body)).Sublist (ink body) :=
  (ink_sublist (trim_sublist _)).trans
    (ink_substituteAll_sublist (fun _ => thrifty_of_mem_rules) body)

/-- A plain text is no longer than the note. -/
theorem length_plain_le (body : List Char) : (plain body).length ≤ body.length :=
  (trim_sublist _).length_le.trans (length_substituteAll_le (fun _ => thrifty_of_mem_rules) body)

/-! ### Cutting -/

/-- The three dots. -/
def ellipsis : List Char := ['.', '.', '.']

/-- **What is shown of a text** before dots are added: a start of it, and all of it where it is short
enough. -/
def shown (n : Int) (cs : List Char) : List Char :=
  if n < cs.length then trimEnd (clip n cs) else cs

theorem clip_isPrefix (n : Int) (cs : List Char) : clip n cs <+: cs := by
  rw [clip]
  split
  · exact List.take_prefix ..
  · exact List.take_prefix ..

theorem shown_isPrefix (n : Int) (cs : List Char) : shown n cs <+: cs := by
  rw [shown]
  split
  · exact (trimEnd_isPrefix _).trans (clip_isPrefix n cs)
  · exact List.prefix_refl cs

/-- **Dots are added where something was cut off**, unless there are three already. -/
theorem truncate_eq_append (n : Int) (cs : List Char) :
    truncate n cs =
      shown n cs ++ if n < cs.length ∧ ¬ellipsis <:+ shown n cs then ellipsis else [] := by
  by_cases hcut : n < cs.length
  · have hshown : shown n cs = trimEnd (clip n cs) := if_pos hcut
    rw [truncate, if_pos hcut, ← hshown]
    change (if ellipsis.isSuffixOf (shown n cs) then shown n cs else shown n cs ++ ellipsis) = _
    by_cases hdots : ellipsis <:+ shown n cs
    · rw [if_pos (List.isSuffixOf_iff_suffix.mpr hdots), if_neg fun h => h.2 hdots, List.append_nil]
    · rw [if_neg (mt List.isSuffixOf_iff_suffix.mp hdots), if_pos ⟨hcut, hdots⟩]
  · rw [truncate, if_neg hcut, if_neg fun h => hcut h.1, shown, if_neg hcut, List.append_nil]

/-- **A preview invents nothing.** Leave out the three dots where something was cut off and they were added:
then all that a preview shows, but for blanks, stands in the note, in the same order. This holds for every
note and every length, also for a negative one. -/
theorem snippet_eq_and_ink_sublist (body : String) (n : Int) :
    let text := plain body.toList
    (snippet body n).toList =
        shown n text ++ (if n < text.length ∧ ¬ellipsis <:+ shown n text then ellipsis else []) ∧
      (ink (shown n text)).Sublist (ink body.toList) := by
  intro text
  refine ⟨?_, (ink_sublist (shown_isPrefix n text).sublist).trans (ink_plain_sublist body.toList)⟩
  rw [snippet, String.toList_ofList]
  exact truncate_eq_append n text

end NoteSearch.Snippet
