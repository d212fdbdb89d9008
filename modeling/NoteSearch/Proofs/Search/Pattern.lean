import Mathlib.Data.List.TakeWhile
import NoteSearch.Search.Like

/-!
# What the pattern of a term finds

The pattern of a term is the term with its special characters marked, between two `%`. Taken apart, it is
one piece for each character of the term, whatever the character is
(`NoteSearch.Like.pieces?_marked_append`), and these pieces fit a text exactly when the term stands
somewhere in it, in either case of the ASCII letters (`NoteSearch.Like.fits_containing`).

That is what a pattern finds in the characters *as a comparison reads them*. The two code points that are
read as the replacement character need no mark before or after, so reading a term and marking it can be
done in either order. Together: a term without NUL is found in a text exactly when it is found in memory,
if both are read the way a comparison reads them (`NoteSearch.Like.finds_eq`).
-/

namespace NoteSearch

namespace Text

/-- Starting points of a text that has been rewritten are those of the text itself. -/
theorem anySuffix_map (p : List Char → Bool) (f : Char → Char) (cs : List Char) :
    anySuffix p (cs.map f) = anySuffix (fun rest => p (rest.map f)) cs := by
  induction cs with
  | nil => rfl
  | cons c cs ih =>
    show (p ((c :: cs).map f) || anySuffix p (cs.map f)) = _
    rw [ih]
    rfl

/-- Some text that starts in `cs` is followed by anything at all. -/
theorem anySuffix_isEmpty (cs : List Char) : anySuffix List.isEmpty cs = true :=
  anySuffix_eq_true_iff.mpr ⟨[], List.nil_suffix, rfl⟩

end Text

namespace Like

open Text

/-! ### Taking a pattern apart -/

/-- Whether a character stands for something else than itself in a pattern. -/
def isSpecial (c : Char) : Bool :=
  c == '/' || c == '%' || c == '_'

/-- A character that is not special is a piece of its own. -/
theorem pieces?_cons_of_not_special {c : Char} (h : isSpecial c = false) (cs : List Char) :
    pieces? (c :: cs) = (pieces? cs).map (.char c :: ·) := by
  simp only [isSpecial, Bool.or_eq_false_iff, beq_eq_false_iff_ne] at h
  obtain ⟨⟨hslash, hpercent⟩, hunder⟩ := h
  rw [pieces?]
  · rintro _ _ rfl
    exact absurd rfl hslash
  · rintro rfl
    exact absurd rfl hslash
  · exact hpercent
  · exact hunder

/-- The characters of a term that starts with a special one. -/
theorem marked_cons_of_special {c : Char} (h : isSpecial c = true) (cs : List Char) :
    marked (c :: cs) = '/' :: c :: marked cs := by
  show (if isSpecial c then ['/', c] else [c]) ++ marked cs = _
  rw [if_pos h]
  rfl

/-- The characters of a term that starts with any other. -/
theorem marked_cons_of_not_special {c : Char} (h : isSpecial c = false) (cs : List Char) :
    marked (c :: cs) = c :: marked cs := by
  show (if isSpecial c then ['/', c] else [c]) ++ marked cs = _
  rw [if_neg (by rw [h]; exact Bool.false_ne_true)]
  rfl

/-- **A marked term stands for its characters**, one by one. -/
theorem pieces?_marked_append (term rest : List Char) :
    pieces? (marked term ++ rest) = (pieces? rest).map (term.map Piece.char ++ ·) := by
  induction term with
  | nil => simp [marked]
  | cons c term ih =>
    -- marked or not, the character becomes one piece, and the rest of the term follows
    have hgo : (pieces? (marked term ++ rest)).map (Piece.char c :: ·)
        = (pieces? rest).map ((c :: term).map Piece.char ++ ·) := by
      rw [ih, Option.map_map]
      rfl
    cases hc : isSpecial c with
    | true =>
      rw [marked_cons_of_special hc, List.cons_append, List.cons_append, pieces?]
      exact hgo
    | false =>
      rw [marked_cons_of_not_special hc, List.cons_append, pieces?_cons_of_not_special hc]
      exact hgo

/-- The pieces of a pattern for a term. -/
theorem pieces?_containing (term : List Char) :
    pieces? (containing term) = some (.anyRun :: (term.map Piece.char ++ [.anyRun])) := by
  show (pieces? (marked term ++ ['%'])).map (Piece.anyRun :: ·) = _
  rw [pieces?_marked_append]
  rfl

/-! ### What the pieces fit -/

/-- Characters, followed by any run, fit a text that starts with these characters. -/
theorem fits_chars (part cs : List Char) :
    fits (part.map Piece.char ++ [.anyRun]) cs
      = (part.map Char.toLower).isPrefixOf (cs.map Char.toLower) := by
  induction part generalizing cs with
  | nil => exact anySuffix_isEmpty cs
  | cons k part ih =>
    cases cs with
    | nil => rfl
    | cons c cs =>
      show (c.toLower == k.toLower && fits (part.map Piece.char ++ [.anyRun]) cs)
        = (k.toLower == c.toLower && (part.map Char.toLower).isPrefixOf (cs.map Char.toLower))
      rw [ih, BEq.comm]

/-- **The pieces of a pattern for a term fit the texts that contain the term.** -/
theorem fits_containing (term cs : List Char) :
    fits (.anyRun :: (term.map Piece.char ++ [.anyRun])) cs
      = hasInfix (term.map Char.toLower) (cs.map Char.toLower) := by
  rw [hasInfix, anySuffix_map]
  show anySuffix (fits _) cs = _
  rw [funext (fits_chars term)]

/-! ### What a comparison reads -/

/-- Being special is not changed by how a comparison reads a character. -/
theorem isSpecial_seen (c : Char) : isSpecial (seen c) = isSpecial c := by
  unfold seen
  split
  · next h =>
    rw [Bool.or_eq_true, beq_iff_eq, beq_iff_eq] at h
    rcases h with rfl | rfl <;> rfl
  · rfl

/-- A term can be read before or after it is marked. -/
theorem map_seen_marked (term : List Char) : (marked term).map seen = marked (term.map seen) := by
  induction term with
  | nil => rfl
  | cons c term ih =>
    rw [List.map_cons]
    cases hc : isSpecial c with
    | true =>
      rw [marked_cons_of_special hc, marked_cons_of_special ((isSpecial_seen c).trans hc),
        List.map_cons, List.map_cons, ih]
      rfl
    | false =>
      rw [marked_cons_of_not_special hc, marked_cons_of_not_special ((isSpecial_seen c).trans hc),
        List.map_cons, ih]

/-- The pattern of a term, as a comparison reads it, is the pattern of what it reads. -/
theorem map_seen_containing (term : List Char) :
    (containing term).map seen = containing (term.map seen) := by
  show '%' :: (marked term ++ ['%']).map seen = _
  rw [List.map_append, map_seen_marked]
  rfl

/-- A comparison looks at the whole of a text without NUL. -/
theorem visible_of_not_mem {cs : List Char} (h : '\x00' ∉ cs) : visible cs = cs.map seen := by
  have hall : ∀ c ∈ cs, (c != '\x00') = true := fun c hc => bne_iff_ne.mpr fun heq => h (heq ▸ hc)
  rw [visible, List.takeWhile_eq_self_iff.mpr hall]

/-- The pattern of a term without NUL has none. -/
theorem not_mem_containing {term : List Char} (h : '\x00' ∉ term) : '\x00' ∉ containing term := by
  intro hmem
  rw [containing, List.cons_append, List.mem_cons, List.mem_append, List.mem_singleton] at hmem
  rcases hmem with hmem | hmem | hmem
  · exact absurd hmem (by decide)
  · obtain ⟨c, hc, hin⟩ := List.mem_flatMap.mp hmem
    split at hin
    · rw [List.mem_cons, List.mem_singleton] at hin
      rcases hin with hin | rfl
      · exact absurd hin (by decide)
      · exact h hc
    · rw [List.mem_singleton] at hin
      exact h (hin ▸ hc)
  · exact absurd hmem (by decide)

/-- A text in which neither of the two code points stands is read as it is. -/
theorem map_seen_eq_self {cs : List Char} (hfirst : '\uFFFE' ∉ cs) (hsecond : '\uFFFF' ∉ cs) :
    cs.map seen = cs := by
  refine (List.map_congr_left fun c hc => ?_).trans (List.map_id cs)
  have hne : ¬(c == '\uFFFE' || c == '\uFFFF') = true := by
    rw [Bool.or_eq_true, beq_iff_eq, beq_iff_eq]
    rintro (rfl | rfl)
    · exact hfirst hc
    · exact hsecond hc
  exact if_neg hne

/-! ### Looking for a term -/

/-- The pattern of a term is within the limit on patterns. -/
def Fitting (term : String) : Prop :=
  (String.ofList (containing term.toList)).utf8ByteSize ≤ maxBytes

/-- **What a pattern within the limit answers**: whether the term is found. -/
def finds (term cs : List Char) : Bool :=
  (pieces? (visible (containing term))).any fun ps => fits ps (visible cs)

/-- A pattern within the limit has an answer. -/
theorem test_containing {term : String} (h : Fitting term) (cs : List Char) :
    test (containing term.toList) cs = .ok (finds term.toList cs) :=
  if_neg (Nat.not_lt.mpr h)

/-- **A term without NUL is found in what a comparison reads of a text**, in either case. -/
theorem finds_eq {term : List Char} (h : '\x00' ∉ term) (cs : List Char) :
    finds term cs = hasInfix ((term.map seen).map Char.toLower) ((visible cs).map Char.toLower) := by
  rw [finds, visible_of_not_mem (not_mem_containing h), map_seen_containing, pieces?_containing]
  exact fits_containing _ _

end Like

end NoteSearch
