import NoteSearch.Proofs.Query.ChipRow
import NoteSearch.Proofs.Query.Reading
import NoteSearch.Search.Session

/-!
# Switching to visual mode

Switching to visual mode is meant to carry the query over where it has a row of chips, and to leave the
chips alone where it has none (`NoteSearch.Session.carriedOver`). This file says when it does.

The row of chips of *no* expression is the empty row, and a query that cannot be read has no expression.
So there is one case in which the chips are not left alone: a query that is not blank and cannot be read
empties the row, and sets the operator back to `AND`. Everywhere else the switch does what it is meant
to do (`NoteSearch.Session.toVisual_eq_carriedOver_iff`).
-/

namespace NoteSearch

open Text

/-! ### Queries and their rows -/

/-- **The row of chips of a query**, if it has one: the query can be read, and asks for what a row of
chips asks for. -/
def rowOfQuery? (query : String) : Option (List Chip × Junction) :=
  (Expr.ofText? query).bind fun e => Chip.recover (some e)

/-- **A query that cannot be read** although something stands there. -/
def Unreadable (query : String) : Prop :=
  isBlankText query = false ∧ Expr.ofText? query = none

theorem scan_eq_nil_of_blank {cs : List Char} (h : cs.all isBlank = true) : scan cs = [] := by
  induction cs with
  | nil => exact scan_nil
  | cons c cs ih =>
    rw [List.all_cons, Bool.and_eq_true] at h
    have hstep : scanStep c cs = (none, cs) := if_pos h.1
    rw [scan_cons, hstep]
    exact ih h.2

/-- No tokens spell nothing. -/
theorem ofTokens?_nil : Expr.ofTokens? [] = none := by
  have hmiss : (Parse.atom []).Misses [] := Parse.misses_atom (by simp) (by simp)
  rw [← Parse.notOperand_eq_atom (by simp)] at hmiss
  exact (Parse.misses_orChain (Parse.misses_andChain hmiss)).1

/-- **A blank query has no expression.** -/
theorem ofText?_eq_none_of_blank {query : String} (h : isBlankText query = true) :
    Expr.ofText? query = none := by
  rw [Expr.ofText?, tokens, scan_eq_nil_of_blank h, ofTokens?_nil]

/-- The row of chips of a query asks for what the query asks for. -/
theorem combine_of_rowOfQuery? {query : String} {chips : List Chip} {j : Junction}
    (h : rowOfQuery? query = some (chips, j)) :
    ∃ e, Expr.ofText? query = some e ∧ Chip.combine j chips = some e := by
  obtain ⟨e, he, hrow⟩ := Option.bind_eq_some_iff.mp h
  exact ⟨e, he, Chip.combine_of_recover hrow⟩

namespace Session

/-! ### What the switch is meant to do, and what it does -/

/-- **The session with its query carried over**: its chips are those of the query, if the query has a
row of chips, and otherwise those that were there. -/
def carriedOver (s : Session) : Session :=
  match rowOfQuery? s.query with
  | some (chips, junction) => { s with mode := .visual, chips, junction }
  | none => { s with mode := .visual }

variable (s : Session)

/-- The switch touches nothing but the mode and the chips. -/
theorem exists_toVisual_eq :
    ∃ chips junction, s.toVisual = { s with mode := .visual, chips, junction } := by
  unfold toVisual
  split
  · next chips junction _ =>
    split
    · exact ⟨s.chips, s.junction, rfl⟩
    · exact ⟨chips, junction, rfl⟩
  · exact ⟨s.chips, s.junction, rfl⟩

theorem toVisual_of_blank (h : isBlankText s.query = true) : s.toVisual = s.carriedOver := by
  have hnone := ofText?_eq_none_of_blank h
  rw [toVisual, carriedOver, rowOfQuery?, hnone]
  exact if_pos h

theorem toVisual_of_ofText? {e : Expr} (h : Expr.ofText? s.query = some e) :
    s.toVisual = s.carriedOver := by
  have hblank : ¬isBlankText s.query = true := fun hb => by
    rw [ofText?_eq_none_of_blank hb] at h
    exact absurd h (by simp)
  have hrow : rowOfQuery? s.query = Chip.recover (some e) := by rw [rowOfQuery?, h]; rfl
  rw [toVisual, carriedOver, hrow, h]
  cases Chip.recover (some e) with
  | none => rfl
  | some row => exact if_neg hblank

/-- **A query that cannot be read empties the row**: it counts as no expression, which has a row of
chips, the empty one. -/
theorem toVisual_of_unreadable (h : Unreadable s.query) :
    s.toVisual = { s with mode := .visual, chips := [], junction := .and } := by
  rw [toVisual, h.2]
  exact if_neg (by simp [h.1])

theorem carriedOver_of_unreadable (h : Unreadable s.query) :
    s.carriedOver = { s with mode := .visual } := by
  rw [carriedOver, rowOfQuery?, h.2]
  rfl

/-- A query is blank, or can be read, or cannot. -/
theorem toVisual_of_not_unreadable (h : ¬Unreadable s.query) : s.toVisual = s.carriedOver := by
  cases hread : Expr.ofText? s.query with
  | some e => exact s.toVisual_of_ofText? hread
  | none =>
    refine s.toVisual_of_blank ?_
    by_cases hblank : isBlankText s.query = true
    · exact hblank
    · exact absurd ⟨Bool.eq_false_iff.mpr hblank, hread⟩ h

/-- **When switching to visual mode carries the query over, and what it does otherwise.** The switch
reads nothing and leaves the query, the results and the messages as they are. The chips come from the
query if it has a row of chips, which then asks for what the query asks for, and stay as they are if
not – unless the query cannot be read: then the row is emptied, and this goes unnoticed only if it was
empty before and joined by `AND`. -/
theorem toVisual_eq_carriedOver_iff (src : Source) :
    (∃ chips junction,
      s.step src .toVisual = .ok ({ s with mode := .visual, chips, junction }, [])) ∧
    (s.toVisual = s.carriedOver ↔ (Unreadable s.query → s.chips = [] ∧ s.junction = .and)) ∧
    (∀ chips junction, rowOfQuery? s.query = some (chips, junction) →
      ∃ e, Expr.ofText? s.query = some e ∧ Chip.combine junction chips = some e) ∧
    (Unreadable s.query → s.toVisual = { s with mode := .visual, chips := [], junction := .and }) := by
  refine ⟨?_, ⟨fun heq hun => ?_, fun hkeep => ?_⟩, fun _ _ => combine_of_rowOfQuery?,
    s.toVisual_of_unreadable⟩
  · obtain ⟨chips, junction, h⟩ := s.exists_toVisual_eq
    exact ⟨chips, junction, by rw [step, h]⟩
  · rw [s.toVisual_of_unreadable hun, s.carriedOver_of_unreadable hun] at heq
    exact ⟨(congrArg chips heq).symm, (congrArg junction heq).symm⟩
  · by_cases hun : Unreadable s.query
    · obtain ⟨hchips, hjunction⟩ := hkeep hun
      rw [s.toVisual_of_unreadable hun, s.carriedOver_of_unreadable hun, ← hchips, ← hjunction]
    · exact s.toVisual_of_not_unreadable hun

/-- A lone operator in the query, and the chip for a tag is lost. -/
theorem toVisual_loses_chip :
    let s : Session := { chips := [⟨.tag, "work", false⟩], query := "AND" }
    s.toVisual.chips = [] ∧ s.carriedOver.chips = s.chips ∧ s.toVisual ≠ s.carriedOver := by
  intro s
  have hscan : tokens "AND" = [.and] := by decide +kernel
  have hmiss : (Parse.atom [.and]).Misses [.and] := Parse.misses_atom (by simp) (by simp)
  rw [← Parse.notOperand_eq_atom (by simp)] at hmiss
  have hun : Unreadable s.query := by
    refine ⟨by decide, ?_⟩
    change Expr.ofTokens? (tokens "AND") = none
    rw [hscan]
    exact (Parse.misses_orChain (Parse.misses_andChain hmiss)).1
  rw [s.toVisual_of_unreadable hun, s.carriedOver_of_unreadable hun]
  exact ⟨rfl, rfl, by decide⟩

end Session

end NoteSearch
