import Mathlib.Data.List.Chain
import Mathlib.Data.List.DropRight
import NoteSearch.Proofs.Text.Run
import NoteSearch.Text.Blank

/-!
# Tidy texts

A tidy text has a single blank, of whichever kind, between two of its words, and none before or behind them.
Trimming makes a text tidy whose blanks are single (`NoteSearch.Text.tidy_trim`) and does nothing to one that
is tidy. Tidy texts with a blank between any two of them make a tidy text
(`NoteSearch.Text.tidy_intercalate`).
-/

namespace NoteSearch.Text

variable {p : Char → Bool} {cs ds : List Char} {c : Char}

/-- **No two characters of a class stand side by side.** -/
def Separated (p : Char → Bool) (cs : List Char) : Prop :=
  cs.IsChain fun c d => ¬(p c = true ∧ p d = true)

/-- **A tidy text.** -/
structure Tidy (cs : List Char) : Prop where
  /-- Its blanks are single. -/
  separated : Separated isBlank cs
  /-- No blank is at its start. -/
  head : ∀ c ∈ cs.head?, isBlank c = false
  /-- No blank is at its end. -/
  last : ∀ c ∈ cs.getLast?, isBlank c = false

/-! ### Characters of a class, side by side -/

theorem separated_nil : Separated p [] :=
  .nil

theorem Separated.cons (h : Separated p cs) (hc : p c = true → ∀ d ∈ cs.head?, p d = false) :
    Separated p (c :: cs) :=
  List.IsChain.cons h fun d hd ⟨hpc, hpd⟩ => by simp [hc hpc d hd] at hpd

theorem separated_cons_iff :
    Separated p (c :: cs) ↔ (p c = true → ∀ d ∈ cs.head?, p d = false) ∧ Separated p cs := by
  refine ⟨fun h => ⟨fun hc d hd => ?_, (List.isChain_cons.mp h).2⟩, fun h => h.2.cons h.1⟩
  exact Bool.eq_false_iff.mpr fun hpd => (List.isChain_cons.mp h).1 d hd ⟨hc, hpd⟩

/-- Fewer characters are separated if more are. -/
theorem Separated.mono {q : Char → Bool} (h : Separated p cs) (hq : ∀ c, q c = true → p c = true) :
    Separated q cs :=
  List.IsChain.imp (fun _ _ hcd hq' => hcd (hq'.imp (hq _) (hq _))) h

theorem separated_of_forall (h : ∀ c ∈ cs, p c = false) : Separated p cs := by
  induction cs with
  | nil => exact separated_nil
  | cons c cs ih =>
    rw [List.forall_mem_cons] at h
    exact (ih h.2).cons fun hc => by simp [h.1] at hc

theorem Separated.append (h : Separated p cs) (h' : Separated p ds)
    (hjoin : ∀ c ∈ cs.getLast?, ∀ d ∈ ds.head?, p c = true → p d = false) : Separated p (cs ++ ds) :=
  List.IsChain.append h h' fun c hc d hd hcd => by simp [hjoin c hc d hd hcd.1] at hcd

/-! ### Trimming -/

theorem tidy_nil : Tidy [] :=
  ⟨separated_nil, nofun, nofun⟩

theorem isBlank_of_mem_head?_trimStart (h : c ∈ (trimStart cs).head?) : isBlank c = false :=
  ((takeWhile_dropWhile_iff cs isBlank).mp ⟨rfl, rfl⟩).2.2 c h

theorem isBlank_of_mem_getLast?_trimEnd (h : c ∈ (trimEnd cs).getLast?) : isBlank c = false := by
  obtain ⟨hne, rfl⟩ := List.mem_getLast?_eq_getLast h
  exact Bool.eq_false_iff.mpr (List.rdropWhile_last_not isBlank cs hne)

/-- The start of a text keeps the head of the text. -/
theorem mem_head?_of_isPrefix (h : ds <+: cs) (hc : c ∈ ds.head?) : c ∈ cs.head? := by
  obtain ⟨rest, rfl⟩ := h
  rw [List.head?_append, hc]
  rfl

theorem trimEnd_isPrefix (cs : List Char) : trimEnd cs <+: cs :=
  List.rdropWhile_prefix isBlank cs

theorem trim_sublist (cs : List Char) : (trim cs).Sublist cs :=
  (trimEnd_isPrefix _).sublist.trans (List.dropWhile_suffix isBlank).sublist

/-- **The start of a tidy text is tidy**, without the blank at its end. -/
theorem Tidy.trimEnd_of_isPrefix (h : Tidy cs) (hds : ds <+: cs) : Tidy (trimEnd ds) := by
  have hstart : trimEnd ds <+: cs := (trimEnd_isPrefix ds).trans hds
  have hseparated : Separated isBlank (trimEnd ds) := List.IsChain.prefix h.separated hstart
  exact ⟨hseparated, fun c hc => h.head c (mem_head?_of_isPrefix hstart hc),
    fun c hc => isBlank_of_mem_getLast?_trimEnd hc⟩

/-- **Trimming makes a text tidy** whose blanks are single. -/
theorem tidy_trim (h : Separated isBlank cs) : Tidy (trim cs) := by
  have hstart : trim cs <+: trimStart cs := trimEnd_isPrefix _
  have hend : Separated isBlank (trimStart cs) := List.IsChain.suffix h (List.dropWhile_suffix _)
  have hseparated : Separated isBlank (trim cs) := List.IsChain.prefix hend hstart
  exact ⟨hseparated,
    fun c hc => isBlank_of_mem_head?_trimStart (mem_head?_of_isPrefix hstart hc),
    fun c hc => isBlank_of_mem_getLast?_trimEnd hc⟩

/-- **A tidy text is trimmed already.** -/
theorem Tidy.trim_eq_self (h : Tidy cs) : trim cs = cs := by
  have hstart : trimStart cs = cs := by
    cases cs with
    | nil => rfl
    | cons c cs => exact List.dropWhile_cons_of_neg (by simp [h.head c rfl])
  rw [trim, hstart]
  refine List.rdropWhile_eq_self_iff.mpr fun hne => ?_
  simp [h.last _ (List.getLast?_eq_getLast_of_ne_nil hne)]

/-! ### Joining -/

/-- A single character may stand between two tidy texts that are not empty, be it a blank or not. -/
theorem Tidy.append_cons (h : Tidy cs) (h' : Tidy ds) (hcs : cs ≠ []) (hds : ds ≠ []) :
    Tidy (cs ++ c :: ds) := by
  have hright : Separated isBlank (c :: ds) := h'.separated.cons fun _ => h'.head
  refine ⟨h.separated.append hright fun b hb d _ hblank => ?_, fun d hd => ?_, fun d hd => ?_⟩
  · rw [h.last b hb] at hblank
    cases hblank
  · rw [List.head?_append_of_ne_nil cs hcs] at hd
    exact h.head d hd
  · rw [List.append_cons, List.getLast?_append_of_ne_nil _ hds] at hd
    exact h'.last d hd

/-- **Tidy texts are joined into a tidy text.** -/
theorem tidy_intercalate {pieces : List (List Char)} (h : ∀ piece ∈ pieces, Tidy piece ∧ piece ≠ []) :
    Tidy ([c].intercalate pieces) ∧ (pieces ≠ [] → [c].intercalate pieces ≠ []) := by
  induction pieces with
  | nil => exact ⟨tidy_nil, fun hne => absurd rfl hne⟩
  | cons piece pieces ih =>
    rw [List.forall_mem_cons] at h
    obtain ⟨htidy, hne⟩ := h.1
    by_cases hlast : pieces = []
    · rw [hlast, List.intercalate_singleton]
      exact ⟨htidy, fun _ => hne⟩
    · obtain ⟨hrest, hrest'⟩ := ih h.2
      rw [List.intercalate_cons_of_ne_nil hlast, List.append_assoc, List.singleton_append]
      exact ⟨htidy.append_cons hrest hne (hrest' hlast), fun _ => by simp⟩

end NoteSearch.Text
