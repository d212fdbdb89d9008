import NoteSearch.Console.Style

/-!
# Echoing a line

A line can be handed to the terminal without markup. The output is taken for something else than a terminal, so
the codes that would color it are left out on the way. A code starts with the escape character and a bracket,
and ends with a letter.
-/

namespace NoteSearch.Console

open Style (escape)

/-- A character between the bracket and the letter of a code. -/
def isCodeArgument (c : Char) : Bool :=
  c.isDigit || c == ';' || c == '?'

/-- What follows the code at the start of a text, if there is one. -/
def afterCode? : List Char → Option (List Char)
  | c :: '[' :: cs =>
    match cs.dropWhile isCodeArgument with
    | letter :: rest => if c == escape && letter.isAlpha then some rest else none
    | [] => none
  | _ => none

/-- What follows a code is shorter. -/
theorem length_lt_of_afterCode? {cs rest : List Char} (h : afterCode? cs = some rest) :
    rest.length < cs.length := by
  unfold afterCode? at h
  split at h
  · next c cs =>
    have hlength := (List.dropWhile_suffix isCodeArgument (l := cs)).length_le
    split at h
    · next letter rest' hdrop =>
      rw [hdrop, List.length_cons] at hlength
      split at h
      · obtain rfl := Option.some.inj h
        simp only [List.length_cons]
        omega
      · cases h
    · cases h
  · cases h

/-- **A text without its codes.** -/
def withoutCodes : List Char → List Char
  | [] => []
  | c :: cs =>
    match _h : afterCode? (c :: cs) with
    | some rest => withoutCodes rest
    | none => c :: withoutCodes cs
termination_by cs => cs.length
decreasing_by
  · exact length_lt_of_afterCode? _h
  · exact Nat.lt_add_one _

@[simp] theorem withoutCodes_nil : withoutCodes [] = [] := by
  rw [withoutCodes]

theorem withoutCodes_cons_some {c : Char} {cs rest : List Char} (h : afterCode? (c :: cs) = some rest) :
    withoutCodes (c :: cs) = withoutCodes rest := by
  rw [withoutCodes]
  split
  · next h' => rw [Option.some.inj (h'.symm.trans h)]
  · next h' => cases h'.symm.trans h

theorem withoutCodes_cons_none {c : Char} {cs : List Char} (h : afterCode? (c :: cs) = none) :
    withoutCodes (c :: cs) = c :: withoutCodes cs := by
  rw [withoutCodes]
  split
  · next h' => cases h'.symm.trans h
  · rfl

/-- **A text as it is echoed**: without its codes, and on a line of its own. -/
def echoed (text : String) : String :=
  String.ofList (withoutCodes text.toList) ++ "\n"

end NoteSearch.Console
