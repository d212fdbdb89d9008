/-!
# Runs of characters

A run is the longest start of a text whose characters are all in one class. It is told by what follows it:
the first character that is not in the class, if there is one.
-/

namespace NoteSearch.Text

/-- **The run at the start of a text, and what is left of the text.** -/
theorem takeWhile_dropWhile_iff (cs : List Char) (p : Char → Bool) {xs ys : List Char} :
    (cs.takeWhile p = xs ∧ cs.dropWhile p = ys) ↔
      cs = xs ++ ys ∧ (∀ c ∈ xs, p c = true) ∧ ∀ c ∈ ys.head?, p c = false := by
  constructor
  · rintro ⟨rfl, rfl⟩
    refine ⟨List.takeWhile_append_dropWhile.symm, fun c hc => ?_, fun c hc => ?_⟩
    · exact List.all_eq_true.mp List.all_takeWhile c hc
    · have hhead := List.head?_dropWhile_not p cs
      rw [Option.mem_def.mp hc] at hhead
      exact hhead
  · rintro ⟨rfl, hxs, hys⟩
    rw [List.takeWhile_append_of_pos hxs, List.dropWhile_append_of_pos hxs]
    cases ys with
    | nil => simp
    | cons y ys => simp [hys y rfl]

/-- **A run ends where it ended**, if a text goes on with a character that is not in the class. -/
theorem takeWhile_dropWhile_append {p : Char → Bool} {ys : List Char} (hys : ∀ c ∈ ys.head?, p c = false)
    (cs : List Char) : (cs ++ ys).takeWhile p = cs.takeWhile p ∧ (cs ++ ys).dropWhile p = cs.dropWhile p ++ ys := by
  obtain ⟨hcs, htake, hdrop⟩ := (takeWhile_dropWhile_iff cs p).mp ⟨rfl, rfl⟩
  refine (takeWhile_dropWhile_iff _ p).mpr ⟨?_, htake, fun c hc => ?_⟩
  · rw [← List.append_assoc, ← hcs]
  · cases hrest : cs.dropWhile p with
    | nil =>
      rw [hrest] at hc
      exact hys c hc
    | cons d ds =>
      rw [hrest] at hc hdrop
      exact hdrop c hc

end NoteSearch.Text
