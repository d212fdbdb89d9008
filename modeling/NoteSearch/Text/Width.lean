import NoteSearch.Text.WidthTable

/-!
# How wide a text is on a terminal

A terminal is a grid of cells. Most characters fill one cell, East Asian wide characters and emoji
fill two, and combining marks and controls fill none. Columns line up when their cells are counted,
not their characters.

A character is not always alone. One that a joiner follows takes the next character into its own cells, and a
selector gives a narrow symbol its wide emoji form. Where a text is cut, what belongs together stays together
(`NoteSearch.Text.clusters`).
-/

namespace NoteSearch.Text

/-- The number of cells that a character fills. -/
def cellWidth (c : Char) : Nat :=
  if 0x20 ≤ c.toNat && c.toNat < 0x7F then 1
  else if zeroWidthChars.contains c then 0
  else if wideChars.contains c then 2
  else 1

/-- The joiner, which takes the next character into the cells of the one before it. -/
def joiner : Char := '\u200D'

/-- The selector of the emoji form. -/
def emojiSelector : Char := '\uFE0F'

/-- The cells that a selector adds, after the given character. -/
def widening (last : Option Char) : Nat :=
  if last.any widenedChars.contains then 1 else 0

/-- The number of cells that characters fill after the given one, the latest that fills any. -/
def widthAfter (last : Option Char) : List Char → Nat
  | [] => 0
  | c :: cs =>
    if c == joiner then
      match cs with
      | [] => 0
      | _ :: rest => widthAfter last rest
    else if c == emojiSelector then widening last + widthAfter none cs
    else if cellWidth c == 0 then widthAfter last cs
    else cellWidth c + widthAfter (some c) cs

/-- **The width of a text**: the number of cells that its characters fill together. -/
def textWidth (cs : List Char) : Nat :=
  widthAfter none cs

/-! ### Cutting a text -/

/-- **Characters that belong together**, and the number of cells that they fill. -/
structure Cluster where
  /-- The characters. -/
  chars : List Char
  /-- The number of cells. -/
  width : Nat
  deriving DecidableEq, Repr, Inhabited

/-- A cluster with more characters at its end, and more cells. -/
def Cluster.extend (k : Cluster) (cs : List Char) (cells : Nat) : Cluster :=
  ⟨k.chars ++ cs, k.width + cells⟩

/-- The clusters of a text after the cluster `k`, in which or before which `last` is the latest character
that fills a cell. -/
def clustersAfter (k : Cluster) (last : Option Char) : List Char → List Cluster
  | [] => [k]
  | c :: cs =>
    if c == joiner then
      match cs with
      | [] => [k.extend [c] 0]
      | d :: rest => clustersAfter (k.extend [c, d] 0) last rest
    else if c == emojiSelector then
      clustersAfter (k.extend [c] (widening last)) (if widening last == 0 then last else none) cs
    else if cellWidth c == 0 then clustersAfter (k.extend [c] 0) last cs
    else k :: clustersAfter ⟨[c], cellWidth c⟩ (some c) cs

/-- **The clusters of a text.** What fills no cell belongs to the character before it; at the start of a text
it is a cluster of its own. -/
def clusters : List Char → List Cluster
  | [] => []
  | c :: cs =>
    let w := if c == joiner || c == emojiSelector then 0 else cellWidth c
    clustersAfter ⟨[c], w⟩ (if w == 0 then none else some c) cs

/-- The beginning of a text that fills `limit` cells, from its clusters. A space takes the place of a cluster
that stands across the limit. -/
def cropClusters (limit : Nat) : List Cluster → List Char
  | [] => []
  | k :: ks =>
    if limit == 0 then []
    else if limit < k.width then [' ']
    else k.chars ++ cropClusters (limit - k.width) ks

/-- **A text that is wider than `limit` cells, cut** so that it fills them. -/
def crop (limit : Nat) (cs : List Char) : List Char :=
  cropClusters limit (clusters cs)

/-- The lines of at most `limit` cells into which clusters are folded, after `taken` cells of the line
`line`. -/
def foldClusters (limit taken : Nat) (line : List Char) : List Cluster → List (List Char)
  | [] => if taken == 0 then [] else [line]
  | k :: ks =>
    if limit < taken + k.width then line :: foldClusters limit k.width k.chars ks
    else foldClusters limit (taken + k.width) (line ++ k.chars) ks

/-- **A text folded** into lines of at most `limit` cells, without regard to words. -/
def foldText (limit : Nat) (cs : List Char) : List (List Char) :=
  foldClusters limit 0 [] (clusters cs)

end NoteSearch.Text
