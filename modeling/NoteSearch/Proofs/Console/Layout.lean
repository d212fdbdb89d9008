import NoteSearch.Console.Layout
import NoteSearch.Proofs.Computation

/-!
# Fitting text into lines keeps its styles

On its way to the terminal a text is cut into lines, its tabulators become spaces, lines are broken, cut, and
filled. Each of these steps changes where the stretches of the text start and end, takes stretches away, or
takes one apart. None of them makes a stretch in a new style: whatever all styles of the text have in common
(`NoteSearch.Console.Marked.Styled`), those of its lines have in common too.

Writing a line looks its styles up. So a text whose styles can all be looked up can be printed, however it is
laid out (`NoteSearch.Console.Marked.exists_printed`).
-/

namespace NoteSearch

namespace Console.Marked

variable {P : String → Prop} {t u : Marked}

/-- **All stretches of a text are in styles with a property.** -/
def Styled (P : String → Prop) (t : Marked) : Prop :=
  ∀ s ∈ t.spans, P s.style

/-- A text without stretches. -/
theorem styled_of_spans_eq_nil (h : t.spans = []) : t.Styled P := by
  rw [Styled, h]
  exact fun s hs => absurd hs List.not_mem_nil

namespace Styled

/-- Moving stretches about does not change their styles. -/
theorem of_map {f : Span → Span} {spans : List Span} (hf : ∀ s, (f s).style = s.style)
    (h : ∀ s ∈ spans, P s.style) : ∀ s ∈ spans.map f, P s.style := by
  intro s hs
  obtain ⟨s', hs', rfl⟩ := List.mem_map.mp hs
  rw [hf]
  exact h s' hs'

theorem of_filter {p : Span → Bool} {spans : List Span} (h : ∀ s ∈ spans, P s.style) :
    ∀ s ∈ spans.filter p, P s.style :=
  fun s hs => h s (List.mem_filter.mp hs).1

/-! ### Cutting apart and putting together -/

theorem slice (h : t.Styled P) (first last : Nat) : (t.slice first last).Styled P :=
  of_filter (of_map (fun _ => rfl) h)

theorem sliceAt (h : t.Styled P) (places : List Nat) : ∀ u ∈ t.sliceAt places, u.Styled P := by
  intro u hu
  unfold Marked.sliceAt at hu
  split at hu
  · rwa [List.mem_singleton.mp hu]
  · obtain ⟨_, -, rfl⟩ := List.mem_map.mp hu
    exact h.slice _ _

theorem lines (h : t.Styled P) : ∀ u ∈ t.lines, u.Styled P := by
  intro u hu
  unfold Marked.lines at hu
  split at hu
  · rwa [List.mem_singleton.mp hu]
  · obtain ⟨_, -, rfl⟩ := List.mem_map.mp hu
    exact h.slice _ _

theorem append (ht : t.Styled P) (hu : u.Styled P) : (t.append u).Styled P := by
  intro s hs
  obtain hs | hs := List.mem_append.mp hs
  · exact ht s hs
  · exact of_map (f := (·.shift t.chars.length)) (fun _ => rfl) hu s hs

theorem cutAfter (h : t.Styled P) (n : Nat) : (t.cutAfter n).Styled P :=
  of_map (fun _ => rfl) (of_filter h)

theorem withChars (h : t.Styled P) (chars : List Char) : (t.withChars chars).Styled P :=
  cutAfter (t := ⟨chars, t.spans⟩) h chars.length

theorem pad (h : t.Styled P) (before after : Nat) : (t.pad before after).Styled P :=
  of_map (fun _ => rfl) h

/-! ### Tabulators -/

theorem expandTabAtEnd (h : t.Styled P) (cells : Nat) : (t.expandTabAtEnd cells).Styled P := by
  unfold Marked.expandTabAtEnd
  split
  · exact of_map (fun s => by split <;> rfl) h
  · exact h

theorem expandTabsAfter {line : Marked} {cells : Nat} {ts : List Marked} (hline : line.Styled P)
    (h : ∀ u ∈ ts, u.Styled P) : (expandTabsAfter line cells ts).Styled P := by
  induction ts generalizing line cells with
  | nil => exact hline
  | cons t ts ih =>
    rw [List.forall_mem_cons] at h
    exact ih (hline.append (h.1.expandTabAtEnd cells)) h.2

theorem expandTabs (h : t.Styled P) : t.expandTabs.Styled P := by
  unfold Marked.expandTabs
  split
  · exact h
  · exact expandTabsAfter (styled_of_spans_eq_nil rfl) (h.sliceAt _)

/-! ### Breaking, cutting and filling lines -/

theorem dropBlanksBeyond (h : t.Styled P) (limit : Nat) : (t.dropBlanksBeyond limit).Styled P := by
  unfold Marked.dropBlanksBeyond
  dsimp only
  split
  · exact h
  · exact h.cutAfter _

theorem breakLine (h : t.Styled P) (folding : Bool) (limit : Nat) :
    ∀ u ∈ t.breakLine folding limit, u.Styled P := by
  intro u hu
  obtain ⟨v, hv, rfl⟩ := List.mem_map.mp hu
  exact (h.sliceAt _ v hv).dropBlanksBeyond limit

theorem truncate (h : t.Styled P) (limit : Nat) : (t.truncate limit).Styled P := by
  unfold Marked.truncate
  split
  · exact h
  · exact h.withChars _

theorem cropLine (h : t.Styled P) (limit : Nat) : (t.cropLine limit).Styled P := by
  unfold Marked.cropLine
  split
  · exact h
  · exact h.withChars _

theorem alignLine (h : t.Styled P) (side : Side) (limit : Nat) : (t.alignLine side limit).Styled P := by
  cases side with
  | left => exact (h.truncate limit).pad _ _
  | middle => exact ((h.cutAfter _).truncate limit).pad _ _
  | right => exact ((h.cutAfter _).truncate limit).pad _ _

/-- **The lines of a text in a column** are in the styles of the text. -/
theorem layOut (h : t.Styled P) (side : Side) (breakable : Bool) (limit : Nat) :
    ∀ u ∈ t.layOut side breakable limit, u.Styled P := by
  intro u hu
  obtain ⟨line, hline, hu⟩ := List.mem_flatMap.mp hu
  obtain ⟨v, hv, rfl⟩ := List.mem_map.mp hu
  have hexpanded : line.expandTabs.Styled P := (h.lines line hline).expandTabs
  refine alignLine ?_ side limit
  split at hv
  · exact hexpanded.breakLine false limit v hv
  · rwa [List.mem_singleton.mp hv]

end Styled

/-! ### Writing -/

/-- A style that can be looked up. -/
def IsKnown (name : String) : Prop :=
  ∃ style, Style.named name = .ok style

/-- **The pieces of a line** are there, if its styles can be looked up. -/
theorem exists_pieces (h : t.Styled IsKnown) : ∃ ps, t.pieces = .ok ps := by
  have hstyles : ∃ styles, (t.spans.mapM fun s => return (s, ← Style.named s.style)) = .ok styles := by
    refine exists_mapM_eq_ok_iff.mpr fun s hs => ?_
    obtain ⟨style, hstyle⟩ := h s hs
    exact ⟨(s, style), by rw [hstyle]; rfl⟩
  obtain ⟨styles, hstyles⟩ := hstyles
  unfold pieces
  rw [hstyles]
  exact ⟨_, rfl⟩

/-- **A message is printed**, if its styles can be looked up. -/
theorem exists_printed (h : t.Styled IsKnown) : ∃ text, t.printed = .ok text := by
  have hlines : (t.lines.flatMap fun line =>
      (line.expandTabs.breakLine true consoleWidth).map (·.cropLine consoleWidth)).forM
        (fun line => discard line.pieces) = .ok () := by
    refine forM_eq_ok fun line hline => ?_
    obtain ⟨whole, hwhole, hline⟩ := List.mem_flatMap.mp hline
    obtain ⟨broken, hbroken, rfl⟩ := List.mem_map.mp hline
    have hstyled := ((h.lines whole hwhole).expandTabs.breakLine _ _ broken hbroken).cropLine consoleWidth
    obtain ⟨ps, hps⟩ := exists_pieces hstyled
    rw [hps]
    rfl
  unfold printed
  simp only [hlines]
  exact ⟨_, rfl⟩

end Console.Marked

end NoteSearch
