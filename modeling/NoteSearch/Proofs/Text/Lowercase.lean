import NoteSearch.Text.Lowercase

/-!
# What lower case leaves alone

The characters before the capital letters, among them digits and marks of punctuation, have no case: they are
in a text as often as in its lower case (`NoteSearch.Text.count_lowercase`).
-/

namespace NoteSearch.Text

variable {c d : Char}

/-- The letters of a run come after the capital `A`, and their lower case are characters. -/
theorem caseRuns_bounds : ∀ r ∈ caseRuns, 'A'.toNat ≤ r.first ∧ 'A'.toNat ≤ r.target
    ∧ (r.target + (r.last - r.first) < 0xD800
      ∨ 0xDFFF < r.target ∧ r.target + (r.last - r.first) < 0x110000) := by
  decide +kernel

/-- **A character before the letters** is its own lower case, and no other character is written so. -/
theorem lowerChar_eq_iff (hc : c.toNat < 'A'.toNat) : lowerChar d = c ↔ d = c := by
  unfold lowerChar
  split
  · next r hr =>
    have hin := List.find?_some hr
    obtain ⟨hfirst, htarget, hvalid⟩ := caseRuns_bounds r (List.mem_of_find?_eq_some hr)
    simp only [Bool.and_eq_true, decide_eq_true_eq] at hin
    have hlower : (Char.ofNat (r.target + (d.toNat - r.first))).toNat = r.target + (d.toNat - r.first) := by
      have hchar : (r.target + (d.toNat - r.first)).isValidChar := by
        unfold Nat.isValidChar
        omega
      rw [Char.ofNat, dif_pos hchar]
      rfl
    constructor
    · rintro rfl
      omega
    · rintro rfl
      omega
  · exact Iff.rfl

theorem count_lowerFrom (hc : c.toNat < 'A'.toNat) (before cs : List Char) :
    (lowerFrom before cs).count c = cs.count c := by
  have hne : ∀ d : Char, 'A'.toNat ≤ d.toNat → d ≠ c := by
    rintro d hd rfl
    omega
  induction cs generalizing before with
  | nil => rfl
  | cons d cs ih =>
    rw [lowerFrom, List.count_append, ih, List.count_cons, Nat.add_comm]
    congr 1
    split
    · next hd =>
      have hd : d ≠ c := by
        rw [eq_of_beq hd]
        exact hne _ (by decide)
      split <;> simp [hd, hne]
    split
    · next hd =>
      have hd : d ≠ c := by
        rw [eq_of_beq hd]
        exact hne _ (by decide)
      simp [hd, hne]
    · simp [List.count_singleton, lowerChar_eq_iff hc]

/-- **A character before the letters is in a text as often as in its lower case.** -/
theorem count_lowercase (hc : c.toNat < 'A'.toNat) (s : String) :
    (lowercase s).toList.count c = s.toList.count c := by
  rw [lowercase, String.toList_ofList, count_lowerFrom hc]

end NoteSearch.Text
