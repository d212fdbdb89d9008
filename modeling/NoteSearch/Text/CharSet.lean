/-!
# Sets of characters

The rules for queries and previews speak of letters, digits and blanks of every script. Each such
class is a finite union of runs of code points, and that is how it is kept here: as the list of its
runs. Membership is then one comparison per run, which both the compiler and a proof can follow.
-/

namespace NoteSearch.Text

/-- **A set of characters**, given by runs of code points. A run `(first, last)` holds both of its
ends. -/
structure CharSet where
  /-- The runs of the set, in increasing order. -/
  runs : List (Nat × Nat)

namespace CharSet

/-- Whether a code point lies in one of the runs. -/
def hasCode (s : CharSet) (n : Nat) : Bool :=
  s.runs.any fun r => r.1 ≤ n && n ≤ r.2

/-- Whether a character belongs to the set. -/
def contains (s : CharSet) (c : Char) : Bool :=
  s.hasCode c.toNat

/-- A character belongs to the set exactly when some run of the set spans its code point. -/
theorem contains_eq_true_iff {s : CharSet} {c : Char} :
    s.contains c = true ↔ ∃ r ∈ s.runs, r.1 ≤ c.toNat ∧ c.toNat ≤ r.2 := by
  simp [contains, hasCode]

end CharSet

end NoteSearch.Text
