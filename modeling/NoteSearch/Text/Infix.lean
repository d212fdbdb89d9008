/-!
# Texts within texts

A term is looked for anywhere in a text. A text has as many starting points as characters, and one
more, at its end; a term is found when one of them leads to it.
-/

namespace NoteSearch.Text

/-- Whether the text that starts at some point of `cs` has a property. -/
def anySuffix (p : List Char → Bool) : List Char → Bool
  | [] => p []
  | c :: cs => p (c :: cs) || anySuffix p cs

/-- **Whether a text contains another.** -/
def hasInfix (part cs : List Char) : Bool :=
  anySuffix (fun rest => part.isPrefixOf rest) cs

theorem anySuffix_eq_true_iff {p : List Char → Bool} {cs : List Char} :
    anySuffix p cs = true ↔ ∃ rest, rest <:+ cs ∧ p rest = true := by
  induction cs with
  | nil => simp [anySuffix]
  | cons c cs ih =>
    simp only [anySuffix, Bool.or_eq_true, ih, List.suffix_cons_iff]
    constructor
    · rintro (h | ⟨rest, hrest, h⟩)
      · exact ⟨_, .inl rfl, h⟩
      · exact ⟨rest, .inr hrest, h⟩
    · rintro ⟨rest, rfl | hrest, h⟩
      · exact .inl h
      · exact .inr ⟨rest, hrest, h⟩

/-- A text contains another exactly when it consists of something, that other text, and something. -/
theorem hasInfix_eq_true_iff {part cs : List Char} : hasInfix part cs = true ↔ part <:+: cs := by
  simp only [hasInfix, anySuffix_eq_true_iff, List.isPrefixOf_iff_prefix]
  constructor
  · rintro ⟨rest, hsuffix, hprefix⟩
    exact hprefix.isInfix.trans hsuffix.isInfix
  · rintro ⟨before, after, rfl⟩
    exact ⟨part ++ after, ⟨before, by simp⟩, ⟨after, rfl⟩⟩

end NoteSearch.Text
