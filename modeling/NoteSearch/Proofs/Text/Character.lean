import NoteSearch.Text.Blank
import NoteSearch.Text.Word

/-!
# Classes of characters

What the proofs about queries need to know about single characters: a blank is no part of a name, and a
capital letter is in the same class as its small letter. There are few blanks and few capital letters,
so both facts are checked one character at a time.
-/

namespace NoteSearch.Text

/-- **What holds of the blanks one by one, holds of every blank.** -/
theorem apply_of_isBlank {p : Char → Bool} {c : Char}
    (hall : ∀ r ∈ blanks.runs, ∀ n ∈ List.range' r.1 (r.2 + 1 - r.1), p (Char.ofNat n) = true)
    (hc : isBlank c = true) : p c = true := by
  obtain ⟨r, hr, hlow, hhigh⟩ := CharSet.contains_eq_true_iff.mp hc
  have hrun := hall r hr c.toNat (by rw [List.mem_range'_1]; omega)
  rwa [Char.ofNat_toNat] at hrun

/-- **A name has no blank in it.** -/
theorem isNameChar_eq_false_of_isBlank {c : Char} (hc : isBlank c = true) : isNameChar c = false := by
  have hname : (!isNameChar c) = true := apply_of_isBlank (p := fun c => !isNameChar c) (by decide +kernel) hc
  simpa using hname

/-! ### Capital letters -/

/-- The capital letters of ASCII. -/
def capitals : List Char :=
  "ABCDEFGHIJKLMNOPQRSTUVWXYZ".toList

/-- **Only capital letters have a case to fold.** -/
theorem toLower_eq_self_or_mem_capitals (c : Char) : c.toLower = c ∨ c ∈ capitals := by
  by_cases hc : c.val ≥ 'A'.val ∧ c.val ≤ 'Z'.val
  · have hall : ∀ n < 91, 65 ≤ n → Char.ofNat n ∈ capitals := by decide
    have hcode := hall c.toNat (Nat.lt_succ_of_le hc.2) hc.1
    rw [Char.ofNat_toNat] at hcode
    exact Or.inr hcode
  · exact Or.inl (dif_neg hc)

@[simp] theorem isNameChar_toLower (c : Char) : isNameChar c.toLower = isNameChar c := by
  rcases toLower_eq_self_or_mem_capitals c with h | h
  · rw [h]
  · have hall : capitals.all (fun c => isNameChar c.toLower == isNameChar c) = true := by
      decide +kernel
    exact eq_of_beq (List.all_eq_true.mp hall c h)

/-- A character that is no small letter is only folded from itself. -/
theorem eq_of_toLower_eq {c k : Char} (hk : k ∉ capitals.map Char.toLower) (h : c.toLower = k) :
    c = k := by
  rcases toLower_eq_self_or_mem_capitals c with hc | hc
  · rw [← h, hc]
  · exact absurd (List.mem_map.mpr ⟨c, hc, h⟩) hk

end NoteSearch.Text
