import Mathlib.Data.List.Forall2
import NoteSearch.Proofs.Query.Scanning

/-!
# Where the tokens of a query stand

The scanner drops what starts no token, and tries a rule again where another one has failed. This file says
that nothing of weight is dropped on the way. Each token is spelled by a stretch of the text
(`NoteSearch.Spells`), the stretches stand side by side in the order of the tokens, and a character in none of
them is a blank, or a character that is in no token outside quotes (`NoteSearch.IsNoise`).

A stretch is judged with the text that follows it: a fixed word ends before a word character, a name ends where
no further character can be taken into it, and a quotation may lack its closing quote only at the end. The
places of the stretches are counted from the start of the text (`NoteSearch.Covers`). That is not how the
scanner sees them, which only knows what is left, so they are found in two stages: the text is first cut into
pieces and dropped characters (`NoteSearch.Pieced`), and the places of the pieces are then added up.
-/

namespace NoteSearch

open Text

/-! ### How a token is spelled -/

/-- **Noise**: a character that a query may have anywhere between two tokens. -/
def IsNoise (c : Char) : Prop :=
  isBlank c = true ∨ (isNameChar c = false ∧ c ≠ '(' ∧ c ≠ ')')

/-- A name, as long as it can be where it stands. -/
def IsWholeName (name after : List Char) : Prop :=
  name ≠ [] ∧ (∀ c ∈ name, isNameChar c = true) ∧ ∀ c ∈ after.head?, isNameChar c = false

/-- **How a value is spelled** where `after` follows. -/
inductive SpellsValue (after value : List Char) : List Char → Prop
  /-- By itself. -/
  | bare : IsWholeName value after → SpellsValue after value value
  /-- In quotes. -/
  | quoted : value ≠ [] → '"' ∉ value → SpellsValue after value ('"' :: value ++ ['"'])
  /-- Behind a quote that is never closed. -/
  | unclosed : value ≠ [] → '"' ∉ value → after = [] → SpellsValue after value ('"' :: value)

/-- **How a token is spelled** where `after` follows. Words and keys are written in any case of ASCII
letters. -/
inductive Spells (after : List Char) : Token → List Char → Prop
  /-- A parenthesis. -/
  | openParen : Spells after .openParen ['(']
  /-- A parenthesis. -/
  | closeParen : Spells after .closeParen [')']
  /-- A fixed word, complete where it stands. -/
  | word {t : Token} {word : String} {p : List Char} : (t, word) ∈ fixedWords →
      p.map Char.toLower = word.toList → (∀ c ∈ after.head?, isWordChar c = false) →
      Spells after t p
  /-- A key and a value. -/
  | keyed {key : String} {make : String → Leaf} {p value spelled : List Char} :
      (key, make) ∈ valueKeys → p.map Char.toLower = key.toList → SpellsValue after value spelled →
      Spells after (.leaf (make (String.ofList value))) (p ++ spelled)
  /-- A term. -/
  | term {name : List Char} : IsWholeName name after →
      Spells after (.leaf (.text (String.ofList name))) name

variable {cs rest value spelled p : List Char} {t : Token} {ts : List Token}

/-- No token is spelled by nothing. -/
theorem Spells.ne_nil (h : Spells rest t p) : p ≠ [] := by
  have hwords : ∀ w ∈ fixedWords, w.2.toList ≠ [] := by decide
  have hkeys : ∀ k ∈ valueKeys, k.1.toList ≠ [] := by simp [valueKeys]
  cases h with
  | openParen => simp
  | closeParen => simp
  | word hw hp _ =>
    rintro rfl
    exact hwords _ hw hp.symm
  | keyed hk hp _ =>
    intro hnil
    rw [(List.append_eq_nil_iff.mp hnil).1] at hp
    exact hkeys _ hk hp.symm
  | term hname => exact hname.1

/-! ### What the rules read -/

theorem exists_spellsValue_of_readValue? (h : readValue? cs = some (value, rest)) :
    ∃ spelled, cs = spelled ++ rest ∧ SpellsValue rest value spelled := by
  by_cases hquote : cs.head? = some '"'
  · obtain ⟨ds, rfl⟩ := List.head?_eq_some_iff.mp hquote
    rw [readValue?_quote, readQuoted?_eq_some_iff] at h
    obtain ⟨hne, hmem, rfl | ⟨rfl, rfl⟩⟩ := h
    · exact ⟨_, by simp, .quoted hne hmem⟩
    · exact ⟨_, by simp, .unclosed hne hmem rfl⟩
  · rw [readValue?_name hquote, readName?_eq_some_iff] at h
    obtain ⟨hne, rfl, hname, hrest⟩ := h
    exact ⟨value, rfl, .bare ⟨hne, hname, hrest⟩⟩

/-- **What a rule reads spells its token.** -/
theorem WordRead.exists_spells (h : WordRead cs t rest) : ∃ p, cs = p ++ rest ∧ Spells rest t p := by
  cases h with
  | fixed hword hdrop =>
    obtain ⟨p, rfl, hp, hend⟩ := dropWholeWord?_eq_some_iff.mp hdrop
    refine ⟨p, rfl, .word hword hp fun c hc => ?_⟩
    obtain ⟨rest, rfl⟩ := List.head?_eq_some_iff.mp hc
    simpa [endsWord] using hend
  | keyed hkey hdrop hvalue =>
    obtain ⟨p, rfl, hp⟩ := dropWord?_eq_some_iff.mp hdrop
    obtain ⟨spelled, rfl, hspelled⟩ := exists_spellsValue_of_readValue? hvalue
    exact ⟨p ++ spelled, (List.append_assoc ..).symm, .keyed hkey hp hspelled⟩
  | term _ hname =>
    obtain ⟨hne, rfl, hchars, hrest⟩ := readName?_eq_some_iff.mp hname
    exact ⟨_, rfl, .term ⟨hne, hchars, hrest⟩⟩

/-- Where no rule applies, no name starts. -/
theorem isNameChar_eq_false_of_scanWord? {c : Char} (h : scanWord? (c :: cs) = none) :
    isNameChar c = false := by
  simp only [scanWord?, Option.orElse_eq_orElse, Option.orElse_eq_or, Option.or_eq_none_iff] at h
  have hname : readName? (c :: cs) = none := by simpa [scanTerm?] using h.2.2.2.2.2.2.2
  refine Bool.eq_false_iff.mpr fun hc => ?_
  simp [readName?, hc] at hname

/-! ### The text in pieces -/

/-- **A text in pieces**: between its noise, one piece for each token. -/
inductive Pieced : List Char → List Token → Prop
  /-- Nothing is left. -/
  | nil : Pieced [] []
  /-- A character is dropped. -/
  | noise {c : Char} {cs : List Char} {ts : List Token} : IsNoise c → Pieced cs ts →
      Pieced (c :: cs) ts
  /-- A piece spells a token. -/
  | token {p rest : List Char} {t : Token} {ts : List Token} : Spells rest t p → Pieced rest ts →
      Pieced (p ++ rest) (t :: ts)

/-- **One step of the scan** drops noise, or reads a piece. -/
theorem scanStep_noise_or_spells (c : Char) (cs : List Char) :
    (scanStep c cs = (none, cs) ∧ IsNoise c) ∨
      ∃ t p rest, scanStep c cs = (some t, rest) ∧ c :: cs = p ++ rest ∧ Spells rest t p := by
  by_cases hblank : isBlank c = true
  · exact Or.inl ⟨by rw [scanStep, if_pos hblank], Or.inl hblank⟩
  by_cases hopen : c = '('
  · refine Or.inr ⟨_, ['('], cs, ?_, by rw [hopen]; rfl, .openParen⟩
    rw [scanStep, if_neg hblank, if_pos hopen]
  by_cases hclose : c = ')'
  · refine Or.inr ⟨_, [')'], cs, ?_, by rw [hclose]; rfl, .closeParen⟩
    rw [scanStep, if_neg hblank, if_neg hopen, if_pos hclose]
  rw [scanStep, if_neg hblank, if_neg hopen, if_neg hclose]
  cases hread : scanWord? (c :: cs) with
  | none =>
    have hname := isNameChar_eq_false_of_scanWord? hread
    exact Or.inl ⟨rfl, Or.inr ⟨hname, hopen, hclose⟩⟩
  | some read =>
    obtain ⟨p, hp, hspells⟩ := (wordRead_of_scanWord? hread).exists_spells
    exact Or.inr ⟨read.1, p, read.2, rfl, hp, hspells⟩

/-- **The scan cuts the text into pieces.** -/
theorem pieced_scan (cs : List Char) : Pieced cs (scan cs) := by
  induction hlen : cs.length using Nat.strongRecOn generalizing cs with
  | ind n ih =>
    cases cs with
    | nil =>
      rw [scan_nil]
      exact .nil
    | cons c cs =>
      have hshorter : (scanStep c cs).2.length < n := by
        have := scanStep_length_le c cs
        rw [← hlen, List.length_cons]
        omega
      have hrest := ih _ hshorter _ rfl
      rw [scan_cons]
      rcases scanStep_noise_or_spells c cs with ⟨hstep, hnoise⟩ | ⟨t, p, rest, hstep, hp, hspells⟩
      · rw [hstep] at hrest ⊢
        exact .noise hnoise hrest
      · rw [hstep] at hrest ⊢
        rw [hp]
        exact .token hspells hrest

/-- Each token is spelled somewhere in the text. -/
theorem Pieced.exists_spells_of_mem (h : Pieced cs ts) (ht : t ∈ ts) :
    ∃ p rest, Spells rest t p ∧ p <:+: cs := by
  induction h with
  | nil => cases ht
  | noise _ _ ih =>
    obtain ⟨p, rest, hspells, hp⟩ := ih ht
    exact ⟨p, rest, hspells, List.infix_cons hp⟩
  | token hspells _ ih =>
    rcases List.mem_cons.mp ht with rfl | ht
    · exact ⟨_, _, hspells, (List.prefix_append _ _).isInfix⟩
    · obtain ⟨p, rest, hlater, hp⟩ := ih ht
      exact ⟨p, rest, hlater, List.infix_append_of_infix_right hp⟩

/-- **A name is written out in its token.** -/
theorem Spells.name_within {name : String} {l : Leaf} (h : Spells rest (.leaf l) p)
    (hl : l = .tag name ∨ l = .folder name) : name.toList <:+: p := by
  cases h with
  | word hword _ _ => rcases hl with rfl | rfl <;> simp [fixedWords] at hword
  | term _ => rcases hl with hl | hl <;> cases hl
  | @keyed key make q value spelled hkey _ hvalue =>
    have hname : value = name.toList := by
      simp only [valueKeys, List.mem_cons, Prod.mk.injEq, List.not_mem_nil, or_false] at hkey
      rcases hkey with ⟨-, rfl⟩ | ⟨-, rfl⟩ <;> rcases hl with hl | hl <;> cases hl <;>
        exact String.toList_ofList.symm
    have hspelled : value <:+: spelled := by
      cases hvalue with
      | bare _ => exact List.infix_refl _
      | quoted _ _ => exact ⟨['"'], ['"'], by simp⟩
      | unclosed _ _ _ => exact ⟨['"'], [], by simp⟩
    exact hname ▸ List.infix_append_of_infix_right hspelled

/-! ### Places in the text -/

/-- **A stretch of a text**, from one place up to a later one. It is never empty. -/
structure Span where
  /-- Where it starts. -/
  start : Nat
  /-- The place after its end. -/
  stop : Nat
  /-- It is not empty. -/
  start_lt_stop : start < stop

namespace Span

/-- Whether a place is in a span. -/
def Contains (s : Span) (i : Nat) : Prop :=
  s.start ≤ i ∧ i < s.stop

/-- The characters in a span. -/
def slice (s : Span) (cs : List Char) : List Char :=
  cs.extract s.start s.stop

/-- The span in a text with `n` more characters before it. -/
def shift (n : Nat) (s : Span) : Span :=
  ⟨n + s.start, n + s.stop, Nat.add_lt_add_left s.start_lt_stop n⟩

/-- The span of a piece that a text starts with. -/
def ofPiece (p : List Char) (h : p ≠ []) : Span :=
  ⟨0, p.length, List.length_pos_iff.mpr h⟩

end Span

/-- A token is spelled by a span of the text. -/
def SpelledAt (cs : List Char) (t : Token) (s : Span) : Prop :=
  s.stop ≤ cs.length ∧ Spells (cs.drop s.stop) t (s.slice cs)

/-- **These spans cover a text**: each spells its token, none starts before the one before it has ended, and
what is in none of them is noise. -/
structure Covers (cs : List Char) (ts : List Token) (spans : List Span) : Prop where
  /-- There is one span for each token, in order, and it spells that token. -/
  spelled : List.Forall₂ (SpelledAt cs) ts spans
  /-- The spans are disjoint, and stand in the text as they stand in the list. -/
  increasing : spans.Pairwise fun s s' => s.stop ≤ s'.start
  /-- Only noise is outside the spans. -/
  noise : ∀ i c, cs[i]? = some c → (∀ s ∈ spans, ¬s.Contains i) → IsNoise c

variable {s : Span} {spans : List Span} {n i : Nat}

theorem Span.contains_shift_iff : (s.shift n).Contains (n + i) ↔ s.Contains i := by
  simp [Contains, shift]

theorem Span.slice_shift (s : Span) (p cs : List Char) : (s.shift p.length).slice (p ++ cs) = s.slice cs := by
  have hlength : p.length + s.stop - (p.length + s.start) = s.stop - s.start := by omega
  rw [slice, slice, List.extract_eq_take_drop, List.extract_eq_take_drop, shift, hlength,
    List.drop_length_add_append]

theorem SpelledAt.of_spells (h : Spells cs t p) : SpelledAt (p ++ cs) t (Span.ofPiece p h.ne_nil) := by
  have hslice : (Span.ofPiece p h.ne_nil).slice (p ++ cs) = p := by
    simp [Span.ofPiece, Span.slice]
  refine ⟨by simp [Span.ofPiece], ?_⟩
  rw [hslice, Span.ofPiece, List.drop_left]
  exact h

theorem SpelledAt.shift (h : SpelledAt cs t s) (p : List Char) : SpelledAt (p ++ cs) t (s.shift p.length) := by
  obtain ⟨hstop, hspells⟩ := h
  refine ⟨by simpa [Span.shift] using hstop, ?_⟩
  rw [Span.slice_shift, Span.shift, List.drop_length_add_append]
  exact hspells

theorem Covers.nil : Covers [] [] [] := by
  refine ⟨.nil, .nil, fun i c hc => ?_⟩
  simp at hc

/-- What the spans of a text say of its characters, they say of them behind another text as well. -/
theorem Covers.noise_shift (h : Covers cs ts spans) {c : Char} (hi : p.length ≤ i)
    (hc : (p ++ cs)[i]? = some c) (hout : ∀ s ∈ spans.map (Span.shift p.length), ¬s.Contains i) :
    IsNoise c := by
  obtain ⟨k, rfl⟩ := Nat.exists_eq_add_of_le hi
  rw [List.getElem?_append_right hi, Nat.add_sub_cancel_left] at hc
  refine h.noise k c hc fun s hs hk => ?_
  exact hout _ (List.mem_map_of_mem hs) (Span.contains_shift_iff.mpr hk)

theorem Covers.spelled_shift (h : Covers cs ts spans) (p : List Char) :
    List.Forall₂ (SpelledAt (p ++ cs)) ts (spans.map (Span.shift p.length)) :=
  List.forall₂_map_right_iff.mpr (h.spelled.imp fun _ _ hs => hs.shift p)

theorem Covers.increasing_shift (h : Covers cs ts spans) (n : Nat) :
    (spans.map (Span.shift n)).Pairwise fun s s' => s.stop ≤ s'.start :=
  List.pairwise_map.mpr (h.increasing.imp fun hs => Nat.add_le_add_left hs n)

/-- Noise before a text only shifts its spans. -/
theorem Covers.cons_noise (h : Covers cs ts spans) {c : Char} (hnoise : IsNoise c) :
    Covers (c :: cs) ts (spans.map (Span.shift 1)) := by
  refine ⟨h.spelled_shift [c], h.increasing_shift 1, fun i c' hc' hout => ?_⟩
  cases i with
  | zero =>
    obtain rfl := Option.some.inj hc'
    exact hnoise
  | succ i => exact h.noise_shift (p := [c]) (by simp) hc' hout

/-- A piece before a text is a span of its own. -/
theorem Covers.append_token (h : Covers cs ts spans) (hspells : Spells cs t p) :
    ∃ spans', Covers (p ++ cs) (t :: ts) spans' := by
  let first := Span.ofPiece p hspells.ne_nil
  refine ⟨first :: spans.map (Span.shift p.length),
    .cons (.of_spells hspells) (h.spelled_shift p), ?_, ?_⟩
  · refine List.pairwise_cons.mpr ⟨fun s' hs' => ?_, h.increasing_shift p.length⟩
    obtain ⟨s, -, rfl⟩ := List.mem_map.mp hs'
    exact Nat.le_add_right ..
  · intro i c hc hout
    -- the place is in the first span, or behind it
    rcases Nat.lt_or_ge i p.length with hi | hi
    · exact absurd ⟨Nat.zero_le i, hi⟩ (hout first List.mem_cons_self)
    · exact h.noise_shift hi hc fun s hs => hout s (List.mem_cons_of_mem _ hs)

theorem Pieced.exists_covers (h : Pieced cs ts) : ∃ spans, Covers cs ts spans := by
  induction h with
  | nil => exact ⟨[], .nil⟩
  | noise hnoise _ ih =>
    obtain ⟨spans, hspans⟩ := ih
    exact ⟨_, hspans.cons_noise hnoise⟩
  | token hspells _ ih =>
    obtain ⟨spans, hspans⟩ := ih
    exact hspans.append_token hspells

/-- **The scanner drops only noise.** Every query has spans that cover it, one for each of its tokens: they
are not empty, follow one another without overlapping, spell their tokens, and leave out only noise. -/
theorem exists_covers_tokens (query : String) :
    ∃ spans, Covers query.toList (tokens query) spans := by
  have hpieces : Pieced query.toList (tokens query) := pieced_scan query.toList
  exact hpieces.exists_covers

end NoteSearch
