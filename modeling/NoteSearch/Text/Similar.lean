/-!
# Texts that look alike

A word that is not known may be a slip for one that is. How much two texts have in common is counted from the
longest stretch that is in both, then in what comes before it in each, and in what comes after it. They look
alike when at least three fifths of their characters are counted.
-/

namespace NoteSearch.Text

/-- **A stretch that is in two texts.** -/
structure SharedStretch where
  /-- Where it starts in the first text. -/
  first : Nat
  /-- Where it starts in the second text. -/
  second : Nat
  /-- How long it is. -/
  length : Nat
  deriving DecidableEq, Repr, Inhabited

/-- The number of characters with which both of two texts start. -/
def sharedLength : List Char → List Char → Nat
  | a :: as, b :: bs => if a == b then sharedLength as bs + 1 else 0
  | _, _ => 0

/-- The stretches that two texts share, by where they start, and as long as they can be. -/
def sharedStretches (as bs : List Char) : List SharedStretch :=
  (List.range as.length).flatMap fun i =>
    (List.range bs.length).map fun j => ⟨i, j, sharedLength (as.drop i) (bs.drop j)⟩

/-- The longest stretch that two texts share, and the first of several. -/
def longestShared (as bs : List Char) : SharedStretch :=
  (sharedStretches as bs).foldl (fun best s => if best.length < s.length then s else best) ⟨0, 0, 0⟩

/-- The number of characters that two texts have in common. The first argument bounds how often a stretch is
looked for around another one; one of the texts becomes shorter every time. -/
def commonCountWithin : Nat → List Char → List Char → Nat
  | 0, _, _ => 0
  | fuel + 1, as, bs =>
    let s := longestShared as bs
    if s.length == 0 then 0
    else
      s.length + commonCountWithin fuel (as.take s.first) (bs.take s.second)
        + commonCountWithin fuel (as.drop (s.first + s.length)) (bs.drop (s.second + s.length))

/-- **The number of characters that two texts have in common.** -/
def commonCount (as bs : List Char) : Nat :=
  commonCountWithin as.length as bs

/-- **How much two texts look alike**: the characters that they have in common, of those of both. -/
structure Likeness where
  /-- How many they have in common. -/
  common : Nat
  /-- How many there are in both. -/
  total : Nat
  deriving DecidableEq, Repr, Inhabited

namespace Likeness

/-- How much two texts look alike, if they do. A text that is much longer than the other is not compared. -/
def of? (as bs : List Char) : Option Likeness :=
  let total := as.length + bs.length
  if 10 * min as.length bs.length < 3 * total then none
  else
    let common := commonCount as bs
    if 10 * common < 3 * total then none else some ⟨common, total⟩

/-- Whether a likeness is at least as great as another. -/
def atLeast (l m : Likeness) : Bool :=
  m.common * l.total ≤ l.common * m.total

end Likeness

/-- Whether a name comes before another among those that look like a word: more alike, or else later in the
order of names. -/
def comesBefore (a b : String × Likeness) : Bool :=
  if b.2.atLeast a.2 then a.2.atLeast b.2 && b.1 ≤ a.1 else true

/-- **The names that look like a word**, in order. There are three at most, the ones that look most like
it. -/
def similarNames (word : String) (names : List String) : List String :=
  let alike := names.filterMap fun name =>
    (Likeness.of? name.toList word.toList).map fun l => (name, l)
  (((alike.mergeSort comesBefore).take 3).map (·.1)).mergeSort (· ≤ ·)

end NoteSearch.Text
