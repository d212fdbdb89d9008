import NoteSearch.Proofs.Snippet.OneLine
import NoteSearch.Proofs.Text.Character
import NoteSearch.Proofs.Text.Split

/-!
# Documents made of marked words

The rules of a preview do not parse a note, and on an arbitrary note markup of one kind may cross markup of
another. This file describes the notes on which nothing crosses: lines of words, each word marked up in at
most one way, behind at most one mark at the start of the line. Words are free of the characters that marks
are made of, so that a mark can only be found where it was put.

Each rule takes away one kind of markup, and finds all other kinds either still there or gone already. So the
text of a document is given for every stage (`NoteSearch.Snippet.Document.textAfter`): after the first `k`
rules, what is left of the markup is that whose turn comes later.
-/

namespace NoteSearch.Snippet

open Text

/-! ### Words and their markup -/

/-- **The signs**: the characters that markup is made of. -/
def signs : List Char :=
  ['#', '*', '_', '`', '[', ']', '(', ')', '!', '~', '+', '-', '.']

/-- **A word**: one character or more, none of them a blank or a sign. -/
structure Word where
  /-- The characters. -/
  chars : List Char
  /-- There is one. -/
  ne_nil : chars ≠ []
  /-- None is a blank, and none is a sign. -/
  plain : ∀ c ∈ chars, isBlank c = false ∧ c ∉ signs

/-- **How a word is marked up.** -/
inductive Wrapping
  /-- Not at all. -/
  | bare
  /-- Between stars. -/
  | stars (width : Nat) (pos : 1 ≤ width) (le_three : width ≤ 3)
  /-- Between underscores. -/
  | underscores (width : Nat) (pos : 1 ≤ width) (le_three : width ≤ 3)
  /-- Between backticks. -/
  | code
  /-- As the label of an image. -/
  | image (target : Word)
  /-- As the label of a link. -/
  | link (target : Word)
  /-- Between tildes, two on either side. -/
  | strike

namespace Wrapping

/-- What stands before the word. -/
def opening : Wrapping → List Char
  | bare => []
  | stars width _ _ => List.replicate width '*'
  | underscores width _ _ => List.replicate width '_'
  | code => ['`']
  | image _ => ['!', '[']
  | link _ => ['[']
  | strike => ['~', '~']

/-- What stands behind the word. -/
def closing : Wrapping → List Char
  | bare => []
  | stars width _ _ => List.replicate width '*'
  | underscores width _ _ => List.replicate width '_'
  | code => ['`']
  | image target | link target => [']', '('] ++ (target.chars ++ [')'])
  | strike => ['~', '~']

/-- The signs among them. -/
def marks : Wrapping → List Char
  | bare => []
  | stars _ _ _ => ['*']
  | underscores _ _ _ => ['_']
  | code => ['`']
  | image _ => ['!', '[', ']', '(', ')']
  | link _ => ['[', ']', '(', ')']
  | strike => ['~']

/-- **Whose turn it is**: how many rules come before the one that takes the markup away. For a bare word
there is none. -/
def turn : Wrapping → Nat
  | stars _ _ _ => 1
  | underscores _ _ _ => 2
  | code => 3
  | image _ => 4
  | link _ => 5
  | strike => 8
  | bare => 9

end Wrapping

/-- **A word with its markup.** -/
structure Piece where
  /-- How the word is marked up. -/
  wrapping : Wrapping
  /-- The word. -/
  word : Word

namespace Piece

/-- The text of a marked word. -/
def text (p : Piece) : List Char :=
  p.wrapping.opening ++ (p.word.chars ++ p.wrapping.closing)

/-- Its text after the first `k` rules. -/
def textAfter (k : Nat) (p : Piece) : List Char :=
  if p.wrapping.turn < k then p.word.chars else p.text

end Piece

/-! ### Lines and documents -/

/-- **What may stand at the start of a line.** -/
inductive Marker
  /-- The mark of a heading. -/
  | heading (level : Nat) (pos : 1 ≤ level) (le_six : level ≤ 6)
  /-- The mark of an item in a list. -/
  | bullet (sign : Char) (dash_or_plus : sign = '-' ∨ sign = '+')
  /-- The mark of an item in a numbered list. -/
  | ordinal (digits : List Char) (ne_nil : digits ≠ []) (isDigit : ∀ c ∈ digits, isDigit c = true)

namespace Marker

/-- The text of a mark, with the space behind it. -/
def text : Marker → List Char
  | heading level _ _ => List.replicate level '#' ++ [' ']
  | bullet sign _ => [sign, ' ']
  | ordinal digits _ _ => digits ++ ['.', ' ']

/-- The signs in it. -/
def marks : Marker → List Char
  | heading _ _ _ => ['#']
  | bullet _ _ => ['-', '+']
  | ordinal _ _ _ => ['.']

/-- How many rules come before the one that takes the mark away. -/
def turn : Marker → Nat
  | heading _ _ _ => 0
  | bullet _ _ => 6
  | ordinal _ _ _ => 7

/-- What is left of the mark after the first `k` rules. -/
def textAfter (k : Nat) (m : Marker) : List Char :=
  if m.turn < k then [] else m.text

end Marker

/-- **A line**: marked words with a space between any two of them, behind a mark or not. -/
structure Line where
  /-- The mark. -/
  marker : Option Marker
  /-- The marked words. -/
  pieces : List Piece
  /-- There is one. -/
  ne_nil : pieces ≠ []

namespace Line

/-- The text of a line. -/
def text (l : Line) : List Char :=
  l.marker.elim [] Marker.text ++ [' '].intercalate (l.pieces.map Piece.text)

/-- What is left of its mark after the first `k` rules. -/
def markAfter (k : Nat) (l : Line) : List Char :=
  l.marker.elim [] (Marker.textAfter k)

/-- What is left of its marked words after the first `k` rules. -/
def bodyAfter (k : Nat) (l : Line) : List Char :=
  [' '].intercalate (l.pieces.map (Piece.textAfter k))

/-- Its text after the first `k` rules. -/
def textAfter (k : Nat) (l : Line) : List Char :=
  l.markAfter k ++ l.bodyAfter k

/-- The words of a line. -/
def words (l : Line) : List Word :=
  l.pieces.map Piece.word

end Line

/-- **A document**: one line or more. -/
structure Document where
  /-- The lines. -/
  lines : List Line
  /-- There is one. -/
  ne_nil : lines ≠ []

namespace Document

/-- **The text of a document**: its lines, with a newline between any two of them. -/
def text (d : Document) : List Char :=
  ['\n'].intercalate (d.lines.map Line.text)

/-- Its text after the first `k` rules. -/
def textAfter (k : Nat) (d : Document) : List Char :=
  ['\n'].intercalate (d.lines.map (Line.textAfter k))

/-- **The words of a document**, from the first to the last. -/
def words (d : Document) : List Word :=
  d.lines.flatMap Line.words

/-- The words of a document, with a space between any two of them. -/
def wordText (d : Document) : List Char :=
  [' '].intercalate (d.words.map Word.chars)

end Document

/-! ### Which characters are where -/

variable {c : Char} {k : Nat}

/-- A sign is neither a blank nor a digit. -/
theorem isBlank_and_isDigit_of_mem_signs (h : c ∈ signs) : isBlank c = false ∧ isDigit c = false := by
  have hall : signs.all (fun c => !isBlank c && !isDigit c) = true := by decide +kernel
  simpa using List.all_eq_true.mp hall c h

theorem isBlank_of_mem_signs (h : c ∈ signs) : isBlank c = false :=
  (isBlank_and_isDigit_of_mem_signs h).1

/-- A digit is neither a blank nor a sign. -/
theorem isBlank_of_isDigit (h : isDigit c = true) : isBlank c = false ∧ c ∉ signs := by
  refine ⟨Bool.eq_false_iff.mpr fun hblank => ?_, fun hsign => ?_⟩
  · have hdigit : (!isDigit c) = true :=
      apply_of_isBlank (p := fun c => !isDigit c) (by decide +kernel) hblank
    simp [h] at hdigit
  · rw [(isBlank_and_isDigit_of_mem_signs hsign).2] at h
    cases h

/-- A word has no sign in it. -/
theorem Word.not_mem (w : Word) (h : c ∈ signs) : c ∉ w.chars :=
  fun hmem => (w.plain c hmem).2 h

theorem Word.tidy (w : Word) : Tidy w.chars :=
  ⟨separated_of_forall fun c hc => (w.plain c hc).1, fun c hc => (w.plain c (List.mem_of_mem_head? hc)).1,
    fun c hc => (w.plain c (List.mem_of_mem_getLast? hc)).1⟩

namespace Wrapping

variable {w : Wrapping}

/-- Marks are made of signs, and otherwise there is only the word for the target. -/
theorem mem_of_mem_opening_or_closing (h : c ∈ w.opening ∨ c ∈ w.closing) :
    c ∈ w.marks ∨ isBlank c = false ∧ c ∉ signs := by
  cases w with
  | bare => simp [opening, closing] at h
  | stars width _ _ | underscores width _ _ =>
    simp only [opening, closing, or_self, List.mem_replicate] at h
    simp [marks, h.2]
  | code | strike => exact Or.inl (by simpa [opening, closing, marks] using h)
  | image target | link target =>
    simp only [opening, closing, List.mem_append, List.mem_cons, List.not_mem_nil, or_false] at h
    by_cases htarget : c ∈ target.chars
    · exact Or.inr (target.plain c htarget)
    · left
      simp only [marks, List.mem_cons, List.not_mem_nil, or_false]
      tauto

theorem marks_subset_signs (w : Wrapping) : ∀ c ∈ w.marks, c ∈ signs := by
  cases w <;> simp [marks, signs]

end Wrapping

namespace Piece

variable {p : Piece}

theorem mem_of_mem_textAfter (h : c ∈ p.textAfter k) :
    (c ∈ p.wrapping.marks ∧ k ≤ p.wrapping.turn) ∨ isBlank c = false ∧ c ∉ signs := by
  rw [textAfter] at h
  split at h
  · exact Or.inr (p.word.plain c h)
  · next hturn =>
    rw [text, List.mem_append, List.mem_append] at h
    by_cases hword : c ∈ p.word.chars
    · exact Or.inr (p.word.plain c hword)
    · refine (Wrapping.mem_of_mem_opening_or_closing ?_).imp_left fun hmark => ⟨hmark, Nat.not_lt.mp hturn⟩
      tauto

/-- **There is no blank in a marked word**, at any stage. -/
theorem isBlank_of_mem_textAfter (h : c ∈ p.textAfter k) : isBlank c = false := by
  rcases mem_of_mem_textAfter h with ⟨hmark, -⟩ | ⟨hblank, -⟩
  · exact isBlank_of_mem_signs (p.wrapping.marks_subset_signs c hmark)
  · exact hblank

/-- **A sign is gone** once the turn of the marks that it belongs to is over. -/
theorem not_mem_textAfter (hsign : c ∈ signs) (h : c ∈ p.wrapping.marks → p.wrapping.turn < k) :
    c ∉ p.textAfter k := by
  intro hmem
  rcases mem_of_mem_textAfter hmem with ⟨hmark, hturn⟩ | ⟨-, hplain⟩
  · exact absurd (h hmark) (Nat.not_lt.mpr hturn)
  · exact hplain hsign

theorem textAfter_ne_nil (k : Nat) (p : Piece) : p.textAfter k ≠ [] := by
  rw [textAfter]
  split
  · exact p.word.ne_nil
  · simp [text, p.word.ne_nil]

/-- At all stages but one, a rule has nothing to do with a marked word. -/
theorem textAfter_succ (h : p.wrapping.turn ≠ k) : p.textAfter (k + 1) = p.textAfter k := by
  have hiff : p.wrapping.turn < k + 1 ↔ p.wrapping.turn < k := by omega
  simp only [textAfter, hiff]

end Piece

namespace Marker

variable {m : Marker}

/-- A mark starts with a sign or a digit. -/
theorem exists_text_eq_cons (m : Marker) : ∃ c cs, m.text = c :: cs ∧ isBlank c = false := by
  cases m with
  | heading level pos _ =>
    obtain ⟨level, rfl⟩ := Nat.exists_eq_add_of_le' pos
    exact ⟨'#', _, rfl, by decide⟩
  | bullet sign h =>
    refine ⟨sign, [' '], rfl, ?_⟩
    rcases h with rfl | rfl <;> decide
  | ordinal digits hne hdigits =>
    obtain ⟨c, cs, rfl⟩ := List.exists_cons_of_ne_nil hne
    exact ⟨c, _, rfl, (isBlank_of_isDigit (hdigits c List.mem_cons_self)).1⟩

theorem mem_of_mem_text (h : c ∈ m.text) : c ∈ m.marks ∨ c = ' ' ∨ isDigit c = true := by
  cases m with
  | heading level _ _ =>
    simp only [text, List.mem_append, List.mem_replicate, List.mem_singleton] at h
    simp only [marks, List.mem_singleton]
    tauto
  | bullet sign hsign =>
    simp only [text, List.mem_cons, List.not_mem_nil, or_false] at h
    rcases h with rfl | rfl
    · exact Or.inl (by simpa [marks] using hsign)
    · exact Or.inr (Or.inl rfl)
  | ordinal digits _ hdigits =>
    simp only [text, List.mem_append, List.mem_cons, List.not_mem_nil, or_false] at h
    rcases h with h | rfl | rfl
    · exact Or.inr (Or.inr (hdigits c h))
    · exact Or.inl List.mem_cons_self
    · exact Or.inr (Or.inl rfl)

/-- A sign is gone once the turn of the mark that it belongs to is over. -/
theorem not_mem_textAfter (hsign : c ∈ signs) (h : c ∈ m.marks → m.turn < k) : c ∉ m.textAfter k := by
  rw [textAfter]
  split
  · exact List.not_mem_nil
  · next hturn =>
    intro hmem
    rcases mem_of_mem_text hmem with hmark | rfl | hdigit
    · exact hturn (h hmark)
    · exact absurd hsign (by decide)
    · exact (isBlank_of_isDigit hdigit).2 hsign

theorem newline_not_mem_text (m : Marker) : '\n' ∉ m.text := by
  intro h
  have hmarks : ∀ m : Marker, '\n' ∉ m.marks := by rintro (_ | _ | _) <;> simp [marks]
  rcases mem_of_mem_text h with hmark | hspace | hdigit
  · exact hmarks m hmark
  · cases hspace
  · exact absurd hdigit (by decide)

theorem textAfter_succ (h : m.turn ≠ k) : m.textAfter (k + 1) = m.textAfter k := by
  have hiff : m.turn < k + 1 ↔ m.turn < k := by omega
  simp only [textAfter, hiff]

end Marker

namespace Line

variable {l : Line}

/-- The marked words of a line start with a character that is no blank. -/
theorem exists_bodyAfter_eq_cons (k : Nat) (l : Line) :
    ∃ c cs, l.bodyAfter k = c :: cs ∧ isBlank c = false := by
  obtain ⟨p, pieces, hpieces⟩ := List.exists_cons_of_ne_nil l.ne_nil
  obtain ⟨c, cs, hp⟩ := List.exists_cons_of_ne_nil (p.textAfter_ne_nil k)
  refine ⟨c, [' '].intercalate (cs :: pieces.map (Piece.textAfter k)), ?_,
    Piece.isBlank_of_mem_textAfter (p := p) (k := k) (by simp [hp])⟩
  rw [bodyAfter, hpieces, List.map_cons, hp, List.intercalate_cons_cons_left]

/-- So does the line. -/
theorem exists_textAfter_eq_cons (k : Nat) (l : Line) :
    ∃ c cs, l.textAfter k = c :: cs ∧ isBlank c = false := by
  obtain ⟨c, cs, hbody, hc⟩ := l.exists_bodyAfter_eq_cons k
  rw [textAfter, markAfter, hbody]
  cases l.marker with
  | none => exact ⟨c, cs, rfl, hc⟩
  | some m =>
    rw [Option.elim_some, Marker.textAfter]
    split
    · exact ⟨c, cs, rfl, hc⟩
    · obtain ⟨d, ds, hm, hd⟩ := m.exists_text_eq_cons
      exact ⟨d, ds ++ c :: cs, by rw [hm]; rfl, hd⟩

theorem not_mem_markAfter (hsign : c ∈ signs) (h : ∀ m ∈ l.marker, c ∈ m.marks → m.turn < k) :
    c ∉ l.markAfter k := by
  rw [markAfter]
  cases hm : l.marker with
  | none => exact List.not_mem_nil
  | some m => exact Marker.not_mem_textAfter hsign (h m hm)

theorem not_mem_textAfter (hsign : c ∈ signs) (hmarker : ∀ m ∈ l.marker, c ∈ m.marks → m.turn < k)
    (hpiece : ∀ w : Wrapping, c ∈ w.marks → w.turn < k) : c ∉ l.textAfter k := by
  rw [textAfter, List.mem_append, not_or]
  refine ⟨not_mem_markAfter hsign hmarker, not_mem_intercalate (fun hspace => ?_) fun piece hmem => ?_⟩
  · rw [List.mem_singleton.mp hspace] at hsign
    exact absurd hsign (by decide)
  · obtain ⟨p, -, rfl⟩ := List.mem_map.mp hmem
    exact Piece.not_mem_textAfter hsign (hpiece p.wrapping)

/-- At a stage that is no mark's turn, the mark stays as it is. -/
theorem markAfter_succ (h : ∀ m ∈ l.marker, m.turn ≠ k) : l.markAfter (k + 1) = l.markAfter k := by
  rw [markAfter, markAfter]
  cases hm : l.marker with
  | none => rfl
  | some m => exact Marker.textAfter_succ (h m hm)

/-- At a stage that is no word's turn, the words stay as they are. -/
theorem bodyAfter_succ (h : ∀ w : Wrapping, w.turn ≠ k) (l : Line) : l.bodyAfter (k + 1) = l.bodyAfter k := by
  rw [bodyAfter, bodyAfter]
  exact congrArg _ (List.map_congr_left fun p _ => Piece.textAfter_succ (h p.wrapping))

theorem newline_not_mem_bodyAfter (k : Nat) (l : Line) : '\n' ∉ l.bodyAfter k := by
  refine not_mem_intercalate (by decide) fun piece hpiece hmem => ?_
  obtain ⟨p, -, rfl⟩ := List.mem_map.mp hpiece
  exact absurd (Piece.isBlank_of_mem_textAfter hmem) (by decide)

theorem newline_not_mem_textAfter (k : Nat) (l : Line) : '\n' ∉ l.textAfter k := by
  rw [textAfter, List.mem_append, not_or]
  refine ⟨?_, l.newline_not_mem_bodyAfter k⟩
  rw [markAfter]
  cases l.marker with
  | none => exact List.not_mem_nil
  | some m =>
    rw [Option.elim_some, Marker.textAfter]
    split
    · exact List.not_mem_nil
    · exact m.newline_not_mem_text

end Line

/-! ### Which rule looks for which sign -/

/-- **The signs that rules for words start at**, with the numbers of the rules. -/
def startingSigns : List (Nat × Char) :=
  [(1, '*'), (2, '_'), (3, '`'), (4, '!'), (5, '['), (8, '~')]

/-- **The signs that rules for marks look for**, with the numbers of the rules. -/
def markSigns : List (Nat × Char) :=
  [(0, '#'), (6, '-'), (6, '*'), (6, '+'), (7, '.')]

theorem mem_signs_of_mem_startingSigns (h : (k, c) ∈ startingSigns) : c ∈ signs := by
  have hall : ∀ s ∈ startingSigns, s.2 ∈ signs := by decide
  exact hall _ h

/-- Markup that comes after a rule for words does not have its sign in it. -/
theorem Wrapping.turn_le (h : (k, c) ∈ startingSigns) {w : Wrapping} (hmark : c ∈ w.marks) : w.turn ≤ k := by
  simp only [startingSigns, List.mem_cons, Prod.mk.injEq, List.not_mem_nil, or_false] at h
  rcases h with ⟨rfl, rfl⟩ | ⟨rfl, rfl⟩ | ⟨rfl, rfl⟩ | ⟨rfl, rfl⟩ | ⟨rfl, rfl⟩ | ⟨rfl, rfl⟩
  all_goals cases w <;> simp [marks, turn] at hmark ⊢

/-- Nor has a mark that is still there. -/
theorem Marker.turn_lt (h : (k, c) ∈ startingSigns) {m : Marker} (hmark : c ∈ m.marks) : m.turn < k := by
  simp only [startingSigns, List.mem_cons, Prod.mk.injEq, List.not_mem_nil, or_false] at h
  rcases h with ⟨rfl, rfl⟩ | ⟨rfl, rfl⟩ | ⟨rfl, rfl⟩ | ⟨rfl, rfl⟩ | ⟨rfl, rfl⟩ | ⟨rfl, rfl⟩
  all_goals cases m <;> simp [marks] at hmark

/-- No mark's turn is that of a rule for words. -/
theorem Marker.turn_ne (h : (k, c) ∈ startingSigns) (m : Marker) : m.turn ≠ k := by
  have hall : ∀ s ∈ startingSigns, s.1 ≠ 0 ∧ s.1 ≠ 6 ∧ s.1 ≠ 7 := by decide
  obtain ⟨hheading, hbullet, hordinal⟩ := hall _ h
  cases m
  · exact hheading.symm
  · exact hbullet.symm
  · exact hordinal.symm

/-- No word's turn is that of a rule for marks. -/
theorem Wrapping.turn_ne (h : (k, c) ∈ markSigns) (w : Wrapping) : w.turn ≠ k := by
  simp only [markSigns, List.mem_cons, Prod.mk.injEq, List.not_mem_nil, or_false] at h
  rcases h with ⟨rfl, -⟩ | ⟨rfl, -⟩ | ⟨rfl, -⟩ | ⟨rfl, -⟩ | ⟨rfl, -⟩
  all_goals cases w <;> simp [turn]

/-- Markup that has the sign of a rule for marks is gone before it. -/
theorem Wrapping.turn_lt (h : (k, c) ∈ markSigns) {w : Wrapping} (hmark : c ∈ w.marks) : w.turn < k := by
  simp only [markSigns, List.mem_cons, Prod.mk.injEq, List.not_mem_nil, or_false] at h
  rcases h with ⟨rfl, rfl⟩ | ⟨rfl, rfl⟩ | ⟨rfl, rfl⟩ | ⟨rfl, rfl⟩ | ⟨rfl, rfl⟩
  all_goals cases w <;> simp [marks, turn] at hmark ⊢

/-- A mark that has the sign is one that the rule is for. -/
theorem Marker.turn_eq (h : (k, c) ∈ markSigns) {m : Marker} (hmark : c ∈ m.marks) : m.turn = k := by
  simp only [markSigns, List.mem_cons, Prod.mk.injEq, List.not_mem_nil, or_false] at h
  rcases h with ⟨rfl, rfl⟩ | ⟨rfl, rfl⟩ | ⟨rfl, rfl⟩ | ⟨rfl, rfl⟩ | ⟨rfl, rfl⟩
  all_goals cases m <;> simp [marks, turn] at hmark ⊢

/-- **A rule for marks does not find its sign** in a line without such a mark. -/
theorem Line.not_mem_of_mem_markSigns (h : (k, c) ∈ markSigns) {l : Line} (hl : ∀ m ∈ l.marker, m.turn ≠ k) :
    c ∉ l.textAfter k := by
  have hall : ∀ s ∈ markSigns, s.2 ∈ signs := by decide
  exact not_mem_textAfter (hall _ h) (fun m hm hmark => absurd (Marker.turn_eq h hmark) (hl m hm))
    fun w hmark => Wrapping.turn_lt h hmark

/-! ### The first stage and the last -/

theorem Document.textAfter_zero (d : Document) : d.textAfter 0 = d.text := by
  have hpiece : Piece.textAfter 0 = Piece.text := funext fun p => if_neg (Nat.not_lt_zero _)
  have hmarker : Marker.textAfter 0 = Marker.text := funext fun m => if_neg (Nat.not_lt_zero _)
  have hline : Line.textAfter 0 = Line.text := by
    funext l
    rw [Line.textAfter, Line.markAfter, Line.bodyAfter, hpiece, hmarker, Line.text]
  rw [textAfter, hline, text]

theorem Piece.textAfter_nine (p : Piece) : p.textAfter 9 = p.word.chars := by
  obtain ⟨wrapping, word⟩ := p
  cases wrapping with
  | bare => simp [textAfter, text, Wrapping.turn, Wrapping.opening, Wrapping.closing]
  | _ => rfl

/-- **After nine rules the words of a line are left.** -/
theorem Line.textAfter_nine (l : Line) : l.textAfter 9 = [' '].intercalate (l.words.map Word.chars) := by
  have hmark : l.markAfter 9 = [] := by
    rw [markAfter]
    rcases l.marker with _ | _ | _ | _ <;> rfl
  have hpieces : l.pieces.map (Piece.textAfter 9) = l.words.map Word.chars := by
    rw [words, List.map_map]
    exact List.map_congr_left fun p _ => p.textAfter_nine
  rw [textAfter, hmark, bodyAfter, hpieces, List.nil_append]

/-! ### Tidy documents -/

/-- Words with a space between any two of them are tidy. -/
theorem tidy_intercalate_words (ws : List Word) :
    Tidy ([' '].intercalate (ws.map Word.chars)) ∧ (ws ≠ [] → [' '].intercalate (ws.map Word.chars) ≠ []) := by
  have hwords : ∀ piece ∈ ws.map Word.chars, Tidy piece ∧ piece ≠ [] := fun piece hpiece => by
    obtain ⟨w, -, rfl⟩ := List.mem_map.mp hpiece
    exact ⟨w.tidy, w.ne_nil⟩
  exact (tidy_intercalate hwords).imp_right fun hne h => hne (by simpa using h)

theorem Document.tidy_wordText (d : Document) : Tidy d.wordText :=
  (tidy_intercalate_words d.words).1

/-- **After nine rules a document is tidy.** -/
theorem Document.tidy_textAfter_nine (d : Document) : Tidy (d.textAfter 9) := by
  refine (tidy_intercalate fun line hline => ?_).1
  obtain ⟨l, -, rfl⟩ := List.mem_map.mp hline
  rw [l.textAfter_nine]
  exact (tidy_intercalate_words l.words).imp_right fun h => h (by simpa [Line.words] using l.ne_nil)

end NoteSearch.Snippet
