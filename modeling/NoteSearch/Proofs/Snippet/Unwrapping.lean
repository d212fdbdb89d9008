import NoteSearch.Proofs.Snippet.Markup

/-!
# Every rule takes away its own markup, and nothing else

A document made of marked words goes through the rules one stage at a time: the rule of number `k` turns the
text that the first `k` rules have left into the text that the first `k + 1` leave. For six of the rules this
is a matter of single words (`NoteSearch.Snippet.Unwraps`). Such a rule starts at a certain sign, so it passes
over everything without that sign, and at a word whose turn it is, it takes the word with its markup and no
more, because the sign that ends the stretch is in no word. For the other three it is a matter of whole lines
(`NoteSearch.Snippet.TakesMarks`): such a rule applies at the start of a line or not at all.

After nine rules the words are left, with single spaces and newlines between them
(`NoteSearch.Snippet.substituteAll_text`), and the last two rules have nothing to do but to make spaces of the
newlines (`NoteSearch.Snippet.plain_text`).
-/

namespace NoteSearch.Snippet

open Text

variable {rule : Rule} {mark : Char} {lineStart : Bool} {k : Nat} {xs ys w rest : List Char}

/-! ### Walking over a text -/

/-- **A stretch is replaced**, and the walk goes on behind it. -/
theorem substitute_append_of_some {kept : List Char} (hne : xs ≠ [])
    (h : rule lineStart (xs ++ ys) = some ⟨xs.length, kept⟩) :
    substitute rule lineStart (xs ++ ys) = kept ++ substitute rule (endsLine xs) ys := by
  obtain ⟨c, cs, rfl⟩ := List.exists_cons_of_ne_nil hne
  have htake : ((c :: cs) ++ ys).take (c :: cs).length = c :: cs := List.take_left
  have hdrop : (cs ++ ys).drop cs.length = ys := List.drop_left
  rw [List.cons_append] at h htake ⊢
  rw [substitute_cons_some h, htake, List.length_cons, Nat.add_sub_cancel, hdrop]

/-- **A rule that does not look at lines**, and starts at one sign. -/
structure Inline (mark : Char) (rule : Rule) : Prop where
  /-- It makes no difference where a line starts. -/
  anywhere : ∀ lineStart lineStart' cs, rule lineStart cs = rule lineStart' cs
  /-- No stretch starts at another character. -/
  starts : ∀ lineStart c cs, c ≠ mark → rule lineStart (c :: cs) = none

theorem Inline.substitute_congr (h : Inline mark rule) (lineStart lineStart' : Bool) (cs : List Char) :
    substitute rule lineStart cs = substitute rule lineStart' cs := by
  cases cs with
  | nil => rw [substitute_nil, substitute_nil]
  | cons c cs => rw [substitute, substitute, h.anywhere lineStart lineStart']

/-- **Such a rule passes over what does not have its sign.** -/
theorem Inline.substitute_append (h : Inline mark rule) (hxs : mark ∉ xs) (ys : List Char) :
    substitute rule true (xs ++ ys) = xs ++ substitute rule true ys := by
  induction xs with
  | nil => rfl
  | cons c cs ih =>
    rw [List.mem_cons, not_or] at hxs
    rw [List.cons_append, substitute_cons_none (h.starts true c _ (Ne.symm hxs.1)),
      h.substitute_congr (c == '\n') true, ih hxs.2, List.cons_append]

/-- **A rule that applies at the start of a line only.** -/
def AtLineStart (rule : Rule) : Prop :=
  ∀ cs, rule false cs = none

/-- Such a rule passes over the rest of a line. -/
theorem AtLineStart.substitute_append (h : AtLineStart rule) (hxs : '\n' ∉ xs) (ys : List Char) :
    substitute rule false (xs ++ ys) = xs ++ substitute rule false ys := by
  induction xs with
  | nil => rfl
  | cons c cs ih =>
    rw [List.mem_cons, not_or] at hxs
    have hline : (c == '\n') = false := by simpa using Ne.symm hxs.1
    rw [List.cons_append, substitute_cons_none (h _), hline, ih hxs.2, List.cons_append]

/-- And over the whole line, where it does not apply at its start. -/
theorem AtLineStart.substitute_line (h : AtLineStart rule) (hne : xs ≠ []) (hxs : '\n' ∉ xs)
    (hstart : rule true (xs ++ ys) = none) :
    substitute rule true (xs ++ ys) = xs ++ substitute rule false ys := by
  obtain ⟨c, cs, rfl⟩ := List.exists_cons_of_ne_nil hne
  rw [List.mem_cons, not_or] at hxs
  have hline : (c == '\n') = false := by simpa using Ne.symm hxs.1
  rw [List.cons_append] at hstart ⊢
  rw [substitute_cons_none hstart, hline, h.substitute_append hxs.2, List.cons_append]

/-- **What may follow a word or a line**: a blank, or nothing. -/
def Ends (rest : List Char) : Prop :=
  ∀ c ∈ rest.head?, isBlank c = true

theorem Ends.not_mem_head? {c : Char} (h : Ends rest) (hsign : c ∈ signs) : c ∉ rest.head? := by
  intro hc
  have hblank := h c hc
  rw [isBlank_of_mem_signs hsign] at hblank
  cases hblank

/-- **A joined text is rewritten piece by piece**, if each piece is, whatever follows it, and the separator is
passed over. The walk is in one state before a piece and in one behind it. -/
theorem substitute_intercalate {α : Type} {f g : α → List Char} {as : List α} {sep : Char}
    {before behind : Bool} (hne : as ≠ []) (hsep : isBlank sep = true)
    (hpass : ∀ rest, substitute rule behind (sep :: rest) = sep :: substitute rule before rest)
    (hpiece : ∀ a ∈ as, ∀ rest, Ends rest →
      substitute rule before (f a ++ rest) = g a ++ substitute rule behind rest) (hrest : Ends rest) :
    substitute rule before ([sep].intercalate (as.map f) ++ rest) =
      [sep].intercalate (as.map g) ++ substitute rule behind rest := by
  induction as with
  | nil => exact absurd rfl hne
  | cons a as ih =>
    rw [List.forall_mem_cons] at hpiece
    by_cases hlast : as = []
    · rw [hlast]
      simpa using hpiece.1 rest hrest
    · have hmap (f : α → List Char) : as.map f ≠ [] := by simpa using hlast
      -- behind every piece but the last comes the separator, which is a blank
      have hends : Ends (sep :: ([sep].intercalate (as.map f) ++ rest)) := by
        rintro c ⟨⟩
        exact hsep
      have hfirst := hpiece.1 _ hends
      rw [hpass, ih hlast hpiece.2] at hfirst
      rw [List.map_cons, List.map_cons, List.intercalate_cons_of_ne_nil (hmap f),
        List.intercalate_cons_of_ne_nil (hmap g)]
      simpa using hfirst

/-! ### What the rules recognise -/

/-- The run of a class at the start of a text, if what follows is not in the class. -/
theorem takeWhile_append {p : Char → Bool} (hxs : ∀ c ∈ xs, p c = true) (hys : ∀ c ∈ ys.head?, p c = false) :
    (xs ++ ys).takeWhile p = xs :=
  ((takeWhile_dropWhile_iff (xs ++ ys) p).mpr ⟨rfl, hxs, hys⟩).1

theorem runLength_append {p : Char → Bool} (hxs : ∀ c ∈ xs, p c = true)
    (hys : ∀ c ∈ ys.head?, p c = false) : runLength p (xs ++ ys) = xs.length := by
  rw [runLength, takeWhile_append hxs hys]

/-- A word without a sign ends where the sign comes. -/
theorem takeWhile_bne_append (hw : mark ∉ w) : (w ++ mark :: rest).takeWhile (· != mark) = w :=
  takeWhile_append (fun c hc => bne_iff_ne.mpr fun h => hw (h ▸ hc)) (by simp)

theorem takeWhile_bne_append_replicate {width : Nat} (hpos : 1 ≤ width) (hw : mark ∉ w) :
    (w ++ (List.replicate width mark ++ rest)).takeWhile (· != mark) = w := by
  obtain ⟨width, rfl⟩ := Nat.exists_eq_add_of_le' hpos
  exact takeWhile_bne_append hw

theorem runLength_replicate_append {width : Nat} (hrest : mark ∉ rest.head?) :
    runLength (· == mark) (List.replicate width mark ++ rest) = width := by
  rw [runLength_append, List.length_replicate]
  · exact fun c hc => beq_iff_eq.mpr (List.eq_of_mem_replicate hc)
  · exact fun c hc => beq_eq_false_iff_ne.mpr fun h => hrest (h ▸ hc)

theorem not_mem_head?_append (hne : w ≠ []) (hw : mark ∉ w) : mark ∉ (w ++ rest).head? := by
  rw [List.head?_append_of_ne_nil w hne]
  exact fun h => hw (List.mem_of_mem_head? h)

/-- What is left of a text behind its opening, and what behind its word. -/
theorem drop_append_append {n : Nat} (xs : List Char) (hn : xs.length = n) (w ys : List Char) :
    (xs ++ (w ++ ys)).drop n = w ++ ys ∧ (xs ++ (w ++ ys)).drop (n + w.length) = ys := by
  rw [← List.drop_drop, List.drop_left' hn, List.drop_left]
  exact ⟨rfl, rfl⟩

/-- **A word between marks of emphasis.** -/
theorem emphasis_append {width : Nat} (hpos : 1 ≤ width) (hle : width ≤ 3) (hne : w ≠ []) (hw : mark ∉ w)
    (hrest : mark ∉ rest.head?) :
    let text := List.replicate width mark ++ (w ++ List.replicate width mark)
    emphasis mark lineStart (text ++ rest) = some ⟨text.length, w⟩ := by
  intro text
  have htext : text ++ rest = List.replicate width mark ++ (w ++ (List.replicate width mark ++ rest)) := by
    simp [text]
  have hlength : text.length = width + w.length + width := by simp [text, Nat.add_assoc]
  have hopening : runLength (· == mark) (List.replicate width mark ++ (w ++ (List.replicate width mark ++ rest)))
      = width := runLength_replicate_append (not_mem_head?_append hne hw)
  -- the closing run is no longer than it should be, since no further mark follows
  have hclosing : runLength (· == mark) (List.replicate width mark ++ rest) = width :=
    runLength_replicate_append hrest
  obtain ⟨hbody, hbehind⟩ := drop_append_append (List.replicate width mark) List.length_replicate w
    (List.replicate width mark ++ rest)
  rw [htext, hlength]
  simp only [emphasis, emphasized, hopening, hbody, takeWhile_bne_append_replicate hpos hw, hbehind, hclosing]
  rw [if_pos (by simp [hpos, hle]), if_pos (by simp [hne, hpos]), Nat.min_eq_right hle]

/-- **A word between fences.** -/
theorem fenced_append {width : Nat} (hpos : 1 ≤ width) (hne : w ≠ []) (hw : mark ∉ w) (rest : List Char) :
    let text := List.replicate width mark ++ (w ++ List.replicate width mark)
    fenced mark width lineStart (text ++ rest) = some ⟨text.length, w⟩ := by
  intro text
  have htext : text ++ rest = List.replicate width mark ++ (w ++ (List.replicate width mark ++ rest)) := by
    simp [text]
  have hlength : text.length = width + w.length + width := by simp [text, Nat.add_assoc]
  obtain ⟨hbody, hbehind⟩ := drop_append_append (List.replicate width mark) List.length_replicate w
    (List.replicate width mark ++ rest)
  rw [htext, hlength]
  simp only [fenced, fencedBody, List.length_replicate, hbody, takeWhile_bne_append_replicate hpos hw, hbehind]
  rw [if_pos (by simp), if_pos (by simp [hne])]

/-- **A word as a label**, with its target. -/
theorem linked_append {opening target : List Char} {labelled : Bool} (hne : w ≠ []) (hw : ']' ∉ w)
    (htarget : target ≠ []) (hparen : ')' ∉ target) (rest : List Char) :
    let text := opening ++ (w ++ ([']', '('] ++ (target ++ [')'])))
    linked opening labelled lineStart (text ++ rest) = some ⟨text.length, w⟩ := by
  intro text
  have htext : text ++ rest = opening ++ (w ++ ([']', '('] ++ (target ++ ([')'] ++ rest)))) := by simp [text]
  have hlength : text.length = opening.length + w.length + 2 + target.length + 1 := by
    simp [text]
    omega
  have hlabel : (w ++ ([']', '('] ++ (target ++ ([')'] ++ rest)))).takeWhile (· != ']') = w :=
    takeWhile_bne_append hw
  have hpath : (target ++ ([')'] ++ rest)).takeWhile (· != ')') = target := takeWhile_bne_append hparen
  obtain ⟨hbody, hbehind⟩ := drop_append_append opening rfl w ([']', '('] ++ (target ++ ([')'] ++ rest)))
  have htwo : [']', '('].length = 2 := rfl
  obtain ⟨hinside, hend⟩ := drop_append_append [']', '('] htwo target ([')'] ++ rest)
  rw [htext, hlength]
  simp only [linked, linkLabel, hbody, hlabel, hbehind, hinside, hpath, hend]
  rw [if_pos (by simp), if_pos (by simp [hne, htarget])]

/-- **The mark of a heading**, with the space behind it. -/
theorem heading_append {level : Nat} {c : Char} (hpos : 1 ≤ level) (hle : level ≤ 6) (hc : isBlank c = false) :
    let text := List.replicate level '#' ++ [' ']
    heading true (text ++ c :: ys) = some ⟨text.length, []⟩ := by
  intro text
  have htext : text ++ c :: ys = List.replicate level '#' ++ ([' '] ++ c :: ys) := by simp [text]
  have hlength : text.length = level + 1 := by simp [text]
  have hmarks : runLength (· == '#') (List.replicate level '#' ++ ([' '] ++ c :: ys)) = level :=
    runLength_replicate_append (by simp)
  have hgap : runLength isBlank ([' '] ++ c :: ys) = 1 :=
    runLength_append (List.forall_mem_singleton.mpr (by decide)) (by simp [hc])
  have hbehind : (List.replicate level '#' ++ ([' '] ++ c :: ys)).drop level = [' '] ++ c :: ys :=
    List.drop_left' List.length_replicate
  rw [htext, hlength]
  simp only [heading, hmarks, hbehind, hgap]
  rw [if_pos (by simp [hpos, hle])]

/-- **The mark of an item**, with the space behind it. -/
theorem item_append {marker : List Char → Nat} {c : Char} (hne : xs ≠ [])
    (hhead : ∀ d ∈ xs.head?, isBlank d = false) (hwidth : marker (xs ++ ' ' :: c :: ys) = xs.length)
    (hc : isBlank c = false) : item marker true (xs ++ ' ' :: c :: ys) = some ⟨xs.length + 1, []⟩ := by
  have hindent : runLength isBlank (xs ++ ' ' :: c :: ys) = 0 :=
    runLength_eq_zero (by rwa [List.head?_append_of_ne_nil xs hne])
  have hgap : runLength isBlank ([' '] ++ c :: ys) = 1 :=
    runLength_append (List.forall_mem_singleton.mpr (by decide)) (by simp [hc])
  have hpos : 1 ≤ xs.length := List.length_pos_iff.mpr hne
  simp only [item, hindent, List.drop_zero, hwidth, Nat.zero_add, List.drop_left]
  rw [List.singleton_append] at hgap
  rw [hgap, if_pos (by simp [hpos])]

/-- A line that starts with neither a blank nor a mark is no item. -/
theorem item_eq_none {marker : List Char → Nat} (hhead : ∀ c ∈ xs.head?, isBlank c = false)
    (hwidth : marker xs = 0) : item marker lineStart xs = none := by
  simp [item, runLength_eq_zero hhead, hwidth]

/-- The digits at the start of a line are no mark, if no dot follows. -/
theorem ordinalWidth_eq_zero (h : '.' ∉ (xs.dropWhile isDigit).head?) : ordinalWidth xs = 0 := by
  rw [ordinalWidth, drop_runLength]
  cases hrest : xs.dropWhile isDigit with
  | nil => simp
  | cons c cs =>
    rw [hrest] at h
    have hdot : '.' ≠ c := fun hc => h (congrArg some hc.symm)
    simp [List.isPrefixOf, hdot]

/-! ### Rules for words -/

theorem inline_emphasis (mark : Char) : Inline mark (emphasis mark) where
  anywhere _ _ _ := rfl
  starts lineStart c cs hc := by
    have hopening : runLength (· == mark) (c :: cs) = 0 := runLength_eq_zero (by simp [hc])
    simp [emphasis, hopening]

theorem inline_fenced {width : Nat} (hpos : 1 ≤ width) (mark : Char) : Inline mark (fenced mark width) where
  anywhere _ _ _ := rfl
  starts lineStart c cs hc := by
    obtain ⟨width, rfl⟩ := Nat.exists_eq_add_of_le' hpos
    simp [fenced, List.replicate_succ, List.isPrefixOf, Ne.symm hc]

theorem inline_linked (mark : Char) (opening : List Char) (labelled : Bool) :
    Inline mark (linked (mark :: opening) labelled) where
  anywhere _ _ _ := rfl
  starts lineStart c cs hc := by simp [linked, List.isPrefixOf, Ne.symm hc]

/-- **A rule that unwraps words**: the rule of number `k`, which starts at the sign `mark`. -/
structure Unwraps (k : Nat) (mark : Char) (rule : Rule) : Prop extends Inline mark rule where
  /-- This is the rule of that number. -/
  known : (k, mark) ∈ startingSigns
  /-- It takes the words whose turn it is, with their markup. -/
  takes : ∀ p : Piece, p.wrapping.turn = k → ∀ rest, Ends rest →
    rule true (p.text ++ rest) = some ⟨p.text.length, p.word.chars⟩

namespace Unwraps

theorem substitute_piece (h : Unwraps k mark rule) (p : Piece) (hrest : Ends rest) :
    substitute rule true (p.textAfter k ++ rest) = p.textAfter (k + 1) ++ substitute rule true rest := by
  by_cases hturn : p.wrapping.turn = k
  -- a word whose turn it is goes whole, and no other word has the sign in it
  · have hbefore : p.textAfter k = p.text := if_neg (by omega)
    have hafter : p.textAfter (k + 1) = p.word.chars := if_pos (by omega)
    have hne : p.text ≠ [] := hbefore ▸ p.textAfter_ne_nil k
    rw [hbefore, hafter, substitute_append_of_some hne (h.takes p hturn rest hrest),
      h.substitute_congr _ true]
  · have hmark : mark ∉ p.textAfter k :=
      Piece.not_mem_textAfter (mem_signs_of_mem_startingSigns h.known) fun hmem =>
        Nat.lt_of_le_of_ne (Wrapping.turn_le h.known hmem) hturn
    rw [Piece.textAfter_succ hturn, h.substitute_append hmark]

/-- Such a rule passes over a blank. -/
theorem substitute_cons (h : Unwraps k mark rule) {c : Char} (hc : isBlank c = true) (cs : List Char) :
    substitute rule true (c :: cs) = c :: substitute rule true cs := by
  have hne : mark ∉ [c] := fun hmem => by
    rw [← List.mem_singleton.mp hmem, isBlank_of_mem_signs (mem_signs_of_mem_startingSigns h.known)] at hc
    cases hc
  exact h.substitute_append hne cs

theorem substitute_line (h : Unwraps k mark rule) (l : Line) (hrest : Ends rest) :
    substitute rule true (l.textAfter k ++ rest) = l.textAfter (k + 1) ++ substitute rule true rest := by
  have hmark : mark ∉ l.markAfter k :=
    Line.not_mem_markAfter (mem_signs_of_mem_startingSigns h.known) fun m _ => Marker.turn_lt h.known
  have hbody : substitute rule true (l.bodyAfter k ++ rest) =
      l.bodyAfter (k + 1) ++ substitute rule true rest :=
    substitute_intercalate l.ne_nil (by decide) (h.substitute_cons (by decide))
      (fun p _ rest hrest => h.substitute_piece p hrest) hrest
  rw [Line.textAfter, Line.textAfter, Line.markAfter_succ fun m _ => Marker.turn_ne h.known m, List.append_assoc,
    h.substitute_append hmark, hbody, List.append_assoc]

/-- **Such a rule unwraps the words of a document whose turn it is**, and leaves all else as it is. -/
theorem substitute_document (h : Unwraps k mark rule) (d : Document) :
    substitute rule true (d.textAfter k) = d.textAfter (k + 1) := by
  have hlines : substitute rule true (d.textAfter k ++ []) = d.textAfter (k + 1) ++ substitute rule true [] :=
    substitute_intercalate d.ne_nil (by decide) (h.substitute_cons (by decide))
      (fun l _ rest hrest => h.substitute_line l hrest) nofun
  rwa [substitute_nil, List.append_nil, List.append_nil] at hlines

end Unwraps

/-! ### The six rules for words -/

theorem unwraps_stars : Unwraps 1 '*' (emphasis '*') where
  toInline := inline_emphasis '*'
  known := by decide
  takes := by
    rintro ⟨wrapping, word⟩ hturn rest hrest
    cases wrapping with
    | stars width hpos hle =>
      exact emphasis_append hpos hle word.ne_nil (word.not_mem (by decide)) (hrest.not_mem_head? (by decide))
    | _ => cases hturn

theorem unwraps_underscores : Unwraps 2 '_' (emphasis '_') where
  toInline := inline_emphasis '_'
  known := by decide
  takes := by
    rintro ⟨wrapping, word⟩ hturn rest hrest
    cases wrapping with
    | underscores width hpos hle =>
      exact emphasis_append hpos hle word.ne_nil (word.not_mem (by decide)) (hrest.not_mem_head? (by decide))
    | _ => cases hturn

theorem unwraps_code : Unwraps 3 '`' (fenced '`' 1) where
  toInline := inline_fenced (by decide) '`'
  known := by decide
  takes := by
    rintro ⟨wrapping, word⟩ hturn rest -
    cases wrapping with
    | code => exact fenced_append (by decide) word.ne_nil (word.not_mem (by decide)) rest
    | _ => cases hturn

theorem unwraps_images : Unwraps 4 '!' (linked ['!', '['] false) where
  toInline := inline_linked '!' ['['] false
  known := by decide
  takes := by
    rintro ⟨wrapping, word⟩ hturn rest -
    cases wrapping with
    | image target =>
      exact linked_append word.ne_nil (word.not_mem (by decide)) target.ne_nil (target.not_mem (by decide)) rest
    | _ => cases hturn

theorem unwraps_links : Unwraps 5 '[' (linked ['['] true) where
  toInline := inline_linked '[' [] true
  known := by decide
  takes := by
    rintro ⟨wrapping, word⟩ hturn rest -
    cases wrapping with
    | link target =>
      exact linked_append word.ne_nil (word.not_mem (by decide)) target.ne_nil (target.not_mem (by decide)) rest
    | _ => cases hturn

theorem unwraps_strikes : Unwraps 8 '~' (fenced '~' 2) where
  toInline := inline_fenced (by decide) '~'
  known := by decide
  takes := by
    rintro ⟨wrapping, word⟩ hturn rest -
    cases wrapping with
    | strike => exact fenced_append (by decide) word.ne_nil (word.not_mem (by decide)) rest
    | _ => cases hturn

/-! ### Rules for marks at the start of a line -/

/-- **A rule that takes away marks**: the rule of number `k`. -/
structure TakesMarks (k : Nat) (rule : Rule) : Prop where
  /-- There is a rule for marks of that number. -/
  known : ∃ c, (k, c) ∈ markSigns
  /-- It applies at the start of a line. -/
  atLineStart : AtLineStart rule
  /-- It takes the marks whose turn it is, before a word. -/
  takes : ∀ m : Marker, m.turn = k → ∀ c cs, isBlank c = false →
    rule true (m.text ++ c :: cs) = some ⟨m.text.length, []⟩
  /-- It does not apply to a line without such a mark. -/
  passes : ∀ l : Line, (∀ m ∈ l.marker, m.turn ≠ k) → ∀ rest, Ends rest →
    rule true (l.textAfter k ++ rest) = none

theorem endsLine_eq_false (h : '\n' ∉ xs) : endsLine xs = false :=
  beq_eq_false_iff_ne.mpr fun hlast => h (List.mem_of_getLast? hlast)

namespace TakesMarks

theorem turn_ne (h : TakesMarks k rule) (w : Wrapping) : w.turn ≠ k := by
  obtain ⟨c, hc⟩ := h.known
  exact Wrapping.turn_ne hc w

theorem substitute_line (h : TakesMarks k rule) (l : Line) (hrest : Ends rest) :
    substitute rule true (l.textAfter k ++ rest) = l.textAfter (k + 1) ++ substitute rule false rest := by
  by_cases hm : ∀ m ∈ l.marker, m.turn ≠ k
  · have hne : l.textAfter k ≠ [] := by
      obtain ⟨c, cs, hcons, -⟩ := l.exists_textAfter_eq_cons k
      exact hcons ▸ List.cons_ne_nil c cs
    have hsame : l.textAfter (k + 1) = l.textAfter k := by
      rw [Line.textAfter, Line.markAfter_succ hm, Line.bodyAfter_succ h.turn_ne, Line.textAfter]
    rw [hsame, h.atLineStart.substitute_line hne (l.newline_not_mem_textAfter k) (h.passes l hm rest hrest)]
  · push Not at hm
    obtain ⟨m, hm, hturn⟩ := hm
    have hbefore : l.markAfter k = m.text := by
      rw [Line.markAfter, hm]
      exact if_neg (by omega)
    have hafter : l.markAfter (k + 1) = [] := by
      rw [Line.markAfter, hm]
      exact if_pos (by omega)
    have hnonempty : m.text ≠ [] := by
      obtain ⟨c, cs, hcons, -⟩ := m.exists_text_eq_cons
      exact hcons ▸ List.cons_ne_nil c cs
    -- the mark has no newline in it, so behind it the rule does not apply any more
    have htakes : rule true (m.text ++ (l.bodyAfter k ++ rest)) = some ⟨m.text.length, []⟩ := by
      obtain ⟨c, cs, hbody, hc⟩ := l.exists_bodyAfter_eq_cons k
      rw [hbody]
      exact h.takes m hturn c (cs ++ rest) hc
    rw [Line.textAfter, Line.textAfter, hbefore, hafter, Line.bodyAfter_succ h.turn_ne, List.append_assoc,
      substitute_append_of_some hnonempty htakes, endsLine_eq_false m.newline_not_mem_text,
      h.atLineStart.substitute_append (l.newline_not_mem_bodyAfter k)]
    rfl

/-- **Such a rule takes the marks of a document whose turn it is**, and leaves all else as it is. -/
theorem substitute_document (h : TakesMarks k rule) (d : Document) :
    substitute rule true (d.textAfter k) = d.textAfter (k + 1) := by
  have hpass (rest : List Char) : substitute rule false ('\n' :: rest) = '\n' :: substitute rule true rest :=
    substitute_cons_none (h.atLineStart _)
  have hlines : substitute rule true (d.textAfter k ++ []) = d.textAfter (k + 1) ++ substitute rule false [] :=
    substitute_intercalate d.ne_nil (by decide) hpass (fun l _ rest hrest => h.substitute_line l hrest) nofun
  rwa [substitute_nil, List.append_nil, List.append_nil] at hlines

end TakesMarks

/-! ### The three rules for marks -/

theorem takesMarks_heading : TakesMarks 0 heading where
  known := ⟨'#', by decide⟩
  atLineStart cs := by simp [heading]
  takes m hturn c cs hc := by
    cases m with
    | heading level hpos hle => exact heading_append hpos hle hc
    | _ => cases hturn
  passes l hl rest _ := by
    obtain ⟨c, cs, hcons, -⟩ := l.exists_textAfter_eq_cons 0
    have hsign : '#' ∉ c :: cs := hcons ▸ Line.not_mem_of_mem_markSigns (by decide) hl
    have hc : c ≠ '#' := fun h => hsign (h ▸ List.mem_cons_self)
    have hmarks : runLength (· == '#') (c :: cs ++ rest) = 0 := runLength_eq_zero (by simpa using hc)
    rw [hcons, heading, hmarks]
    simp

theorem takesMarks_bullets : TakesMarks 6 (item bulletWidth) where
  known := ⟨'-', by decide⟩
  atLineStart cs := by simp [item]
  takes m hturn c cs hc := by
    cases m with
    | bullet sign hsign =>
      have hhead : ∀ d ∈ [sign].head?, isBlank d = false := by
        rintro d ⟨⟩
        rcases hsign with rfl | rfl <;> decide
      have hwidth : bulletWidth ([sign] ++ ' ' :: c :: cs) = 1 := by
        rcases hsign with rfl | rfl <;> rfl
      exact item_append (List.cons_ne_nil _ _) hhead hwidth hc
    | _ => cases hturn
  passes l hl rest _ := by
    obtain ⟨c, cs, hcons, hc⟩ := l.exists_textAfter_eq_cons 6
    have hsign (d : Char) (hd : (6, d) ∈ markSigns) : c ≠ d := by
      rintro rfl
      exact Line.not_mem_of_mem_markSigns hd hl (hcons ▸ List.mem_cons_self)
    rw [hcons]
    refine item_eq_none (by simpa using hc) ?_
    rw [List.cons_append, bulletWidth]
    simp [hsign '-' (by decide), hsign '*' (by decide), hsign '+' (by decide)]

theorem takesMarks_ordinals : TakesMarks 7 (item ordinalWidth) where
  known := ⟨'.', by decide⟩
  atLineStart cs := by simp [item]
  takes m hturn c cs hc := by
    cases m with
    | ordinal digits hne hdigits =>
      have hhead : ∀ d ∈ (digits ++ ['.']).head?, isBlank d = false := fun d hd => by
        rw [List.head?_append_of_ne_nil digits hne] at hd
        exact (isBlank_of_isDigit (hdigits d (List.mem_of_mem_head? hd))).1
      have htext : (digits ++ ['.']) ++ ' ' :: c :: cs = digits ++ '.' :: ' ' :: c :: cs := by simp
      have hrun : runLength isDigit (digits ++ '.' :: ' ' :: c :: cs) = digits.length :=
        runLength_append hdigits (by simp; decide)
      have hwidth : ordinalWidth ((digits ++ ['.']) ++ ' ' :: c :: cs) = (digits ++ ['.']).length := by
        have hpos : 1 ≤ digits.length := List.length_pos_iff.mpr hne
        rw [htext, ordinalWidth, hrun, List.drop_left, if_pos (by simp [hpos]), List.length_append,
          List.length_singleton]
      have hitem := item_append (by simp) hhead hwidth hc
      simpa [Marker.text] using hitem
    | _ => cases hturn
  passes l hl rest hrest := by
    obtain ⟨c, cs, hcons, hc⟩ := l.exists_textAfter_eq_cons 7
    have hsign : '.' ∉ l.textAfter 7 := Line.not_mem_of_mem_markSigns (by decide) hl
    refine item_eq_none (by simpa [hcons] using hc) ?_
    -- the digits may go on to the end of the line, so it matters what follows there
    have hends : ∀ d ∈ rest.head?, isDigit d = false := fun d hd => by
      refine Bool.eq_false_iff.mpr fun hdigit => ?_
      have hblank := hrest d hd
      rw [(isBlank_of_isDigit hdigit).1] at hblank
      cases hblank
    refine ordinalWidth_eq_zero ?_
    rw [(takeWhile_dropWhile_append hends _).2, List.head?_append, Option.mem_def, Option.or_eq_some_iff]
    rintro (hdot | ⟨-, hdot⟩)
    · exact hsign ((List.dropWhile_suffix _).subset (List.mem_of_mem_head? hdot))
    · exact hrest.not_mem_head? (by decide) hdot

/-! ### All of them, one after the other -/

/-- **The first nine rules leave the words.** -/
theorem substituteAll_text (d : Document) : substituteAll (rules.take 9) d.text = d.textAfter 9 := by
  simp only [substituteAll, rules, List.take_succ_cons, List.take_zero, List.foldl_cons, List.foldl_nil]
  rw [← d.textAfter_zero, takesMarks_heading.substitute_document, unwraps_stars.substitute_document,
    unwraps_underscores.substitute_document, unwraps_code.substitute_document,
    unwraps_images.substitute_document, unwraps_links.substitute_document,
    takesMarks_bullets.substitute_document, takesMarks_ordinals.substitute_document,
    unwraps_strikes.substitute_document]

/-- The newlines between the lines are the only ones, so with spaces for them the words are in one line. -/
theorem map_textAfter_nine (d : Document) :
    (d.textAfter 9).map (fun c => if c == '\n' then ' ' else c) = d.wordText := by
  have hline (l : Line) : (l.textAfter 9).map (fun c => if c == '\n' then ' ' else c) =
      [' '].intercalate (l.words.map Word.chars) := by
    rw [← l.textAfter_nine, List.map_congr_left (g := id) fun c hc => ?_, List.map_id]
    have hne : c ≠ '\n' := fun h => l.newline_not_mem_textAfter 9 (h ▸ hc)
    rw [if_neg (by simpa using hne), id]
  have hgroups : ∀ group ∈ d.lines.map (fun l => l.words.map Word.chars), group ≠ [] := by
    intro group hgroup
    obtain ⟨l, -, rfl⟩ := List.mem_map.mp hgroup
    simpa [Line.words] using l.ne_nil
  have hwords : (d.lines.map fun l => l.words.map Word.chars).flatten = d.words.map Word.chars := by
    rw [Document.words, List.map_flatMap, List.flatMap]
  calc (d.textAfter 9).map (fun c => if c == '\n' then ' ' else c)
      = [' '].intercalate (d.lines.map fun l => [' '].intercalate (l.words.map Word.chars)) := by
        rw [Document.textAfter, map_intercalate, List.map_map]
        exact congrArg _ (List.map_congr_left fun l _ => hline l)
    _ = [' '].intercalate (d.lines.map fun l => l.words.map Word.chars).flatten := by
        rw [← intercalate_map_intercalate hgroups, List.map_map]
        rfl
    _ = d.wordText := by rw [hwords, Document.wordText]

/-- **The last two rules make spaces of the newlines.** -/
theorem plain_text (d : Document) : plain d.text = d.wordText := by
  have hplain : plain d.text = trim (substitute (squeeze isBlank 2) true
      (substitute (squeeze (· == '\n') 1) true (substituteAll (rules.take 9) d.text))) := rfl
  have hlines : Separated (· == '\n') (d.textAfter 9) :=
    d.tidy_textAfter_nine.separated.mono fun c hc => by
      rw [beq_iff_eq.mp hc]
      decide
  rw [hplain, substituteAll_text, substitute_squeeze_one hlines, map_textAfter_nine,
    substitute_squeeze_two d.tidy_wordText.separated, d.tidy_wordText.trim_eq_self]

/-- **Previews of documents made of marked words.** At a length that leaves room for all of such a document,
its preview consists of its words, from the first to the last, with a space between any two of them. It does
so at every length that leaves room for these, and at no other. -/
theorem snippet_document (d : Document) (n : Int) :
    ((d.text.length : Int) ≤ n → snippet (String.ofList d.text) n = String.ofList d.wordText) ∧
      (snippet (String.ofList d.text) n = String.ofList d.wordText ↔ (d.wordText.length : Int) ≤ n) := by
  have hplain := plain_text d
  have hlength : d.wordText.length ≤ d.text.length := hplain ▸ length_plain_le d.text
  have hiff : snippet (String.ofList d.text) n = String.ofList d.wordText ↔ (d.wordText.length : Int) ≤ n := by
    rw [snippet, String.toList_ofList, hplain, String.ofList_inj]
    constructor
    · intro hshown
      by_contra hcut
      obtain ⟨start, -, hstart⟩ := exists_prefix_of_cut (Int.not_le.mp hcut)
      refine not_mem_intercalate (by decide) (fun piece hpiece => ?_)
        (show '.' ∈ d.wordText from hshown ▸ hstart ▸ List.mem_append_right start (by decide))
      obtain ⟨w, -, rfl⟩ := List.mem_map.mp hpiece
      exact w.not_mem (by decide)
    · exact fun h => if_neg (Int.not_lt.mpr h)
  exact ⟨fun h => hiff.mpr (by omega), hiff⟩

/-- A heading with an emphasized word in it, and an item with a link and a word that is struck out. -/
theorem snippet_document_heading_item :
    snippet "# **Plan** for\n- [talk](here) ~~today~~" 40 = "Plan for talk today" := by
  let heading : Line := ⟨some (.heading 1 (by decide) (by decide)),
    [⟨.stars 2 (by decide) (by decide), ⟨['P', 'l', 'a', 'n'], by decide, by simp [signs]; decide⟩⟩,
      ⟨.bare, ⟨['f', 'o', 'r'], by decide, by simp [signs]; decide⟩⟩], by simp⟩
  let item : Line := ⟨some (.bullet '-' (Or.inl rfl)),
    [⟨.link ⟨['h', 'e', 'r', 'e'], by decide, by simp [signs]; decide⟩,
        ⟨['t', 'a', 'l', 'k'], by decide, by simp [signs]; decide⟩⟩,
      ⟨.strike, ⟨['t', 'o', 'd', 'a', 'y'], by decide, by simp [signs]; decide⟩⟩], by simp⟩
  exact (snippet_document ⟨[heading, item], by simp⟩ 40).1 (by decide)

end NoteSearch.Snippet
