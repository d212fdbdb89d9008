import NoteSearch.Proofs.Text.Character
import NoteSearch.Text.FoldCase

/-!
# What folding the case leaves alone

Names and terms are compared up to the case of ASCII letters, and the scanner reads words up to it. Both
are safe because folding is harmless everywhere else: it changes 26 characters, each into another character
of the same classes (`NoteSearch.Text.apply_toLower`), and doing it twice is doing it once.
-/

namespace NoteSearch.Text

variable {cs : List Char}

/-- **What folding leaves alone on the capital letters, it leaves alone.** -/
theorem apply_toLower {α : Type} [DecidableEq α] {f : Char → α}
    (h : capitals.all (fun c => f c.toLower = f c) = true) (c : Char) : f c.toLower = f c := by
  rcases toLower_eq_self_or_mem_capitals c with hc | hc
  · rw [hc]
  · exact of_decide_eq_true (List.all_eq_true.mp h c hc)

@[simp] theorem toLower_toLower (c : Char) : c.toLower.toLower = c.toLower :=
  apply_toLower (f := Char.toLower) (by decide) c

@[simp] theorem isBlank_toLower (c : Char) : isBlank c.toLower = isBlank c :=
  apply_toLower (by decide) c

@[simp] theorem isWordChar_toLower (c : Char) : isWordChar c.toLower = isWordChar c :=
  apply_toLower (by decide +kernel) c

/-- Only a letter is folded into a letter. -/
theorem toLower_eq_iff {c k : Char} (hk : k ∉ capitals.map Char.toLower) (hsmall : k.toLower = k) :
    c.toLower = k ↔ c = k := by
  refine ⟨eq_of_toLower_eq hk, ?_⟩
  rintro rfl
  exact hsmall

/-- Folding leaves a character that is no letter where it is. -/
theorem toLower_bne {k : Char} (hk : k ∉ capitals.map Char.toLower) (hsmall : k.toLower = k)
    (c : Char) : (c.toLower != k) = (c != k) := by
  rw [Bool.eq_iff_iff, bne_iff_ne, bne_iff_ne, ne_eq, toLower_eq_iff hk hsmall]

@[simp] theorem map_toLower_map_toLower (cs : List Char) :
    (cs.map Char.toLower).map Char.toLower = cs.map Char.toLower := by
  rw [List.map_map]
  exact List.map_congr_left fun c _ => toLower_toLower c

@[simp] theorem foldCase_foldCase (s : String) : foldCase (foldCase s) = foldCase s := by
  rw [foldCase, toList_foldCase, map_toLower_map_toLower, foldCase]

/-! ### Runs of characters -/

/-- **The start of a text in a class** is found in either case. -/
theorem takeWhile_map_toLower {p : Char → Bool} (hp : ∀ c, p c.toLower = p c) (cs : List Char) :
    (cs.map Char.toLower).takeWhile p = (cs.takeWhile p).map Char.toLower := by
  rw [List.takeWhile_map]
  exact congrArg (fun q => (cs.takeWhile q).map Char.toLower) (funext hp)

/-- So is what follows it. -/
theorem dropWhile_map_toLower {p : Char → Bool} (hp : ∀ c, p c.toLower = p c) (cs : List Char) :
    (cs.map Char.toLower).dropWhile p = (cs.dropWhile p).map Char.toLower := by
  rw [List.dropWhile_map]
  exact congrArg (fun q => (cs.dropWhile q).map Char.toLower) (funext hp)

end NoteSearch.Text
