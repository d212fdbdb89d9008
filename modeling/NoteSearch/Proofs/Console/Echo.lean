import NoteSearch.Console.Echo
import NoteSearch.Proofs.Console.Json
import NoteSearch.Proofs.Text.Split

/-!
# What an echo leaves out

Codes are recognised from left to right, so that what is left out is said by a recursion. For a whole text it
is simpler: nothing is left out exactly when there is no code anywhere in it (`NoteSearch.Console.HasCode`),
and where there is one, an escape character is lost (`NoteSearch.Console.count_withoutCodes_lt`). A line break
is in no code, so an echo has the lines of its text.

The echo is the text itself for whatever has no escape character in it, such as a numeral, or JSON, which has
escapes of its own for such characters (`NoteSearch.Console.echoed_print`).
-/

namespace NoteSearch.Console

open Text
open Style (escape)

variable {c : Char} {cs ds rest : List Char}

/-! ### Codes -/

/-- **A code**: the escape character, a bracket, arguments, and a letter. -/
def IsCode (code : List Char) : Prop :=
  ∃ (arguments : List Char) (letter : Char), code = escape :: '[' :: arguments ++ [letter]
    ∧ (∀ c ∈ arguments, isCodeArgument c = true) ∧ letter.isAlpha = true

/-- **A text with a code** somewhere in it. -/
def HasCode (cs : List Char) : Prop :=
  ∃ code, IsCode code ∧ code <:+: cs

/-- A letter ends the arguments of a code. -/
theorem isCodeArgument_of_isAlpha (h : c.isAlpha = true) : isCodeArgument c = false := by
  have hdigit : c.isDigit = false := by
    refine Bool.eq_false_iff.mpr fun hdigit => ?_
    -- letters come after the digits
    have hletter : '9'.toNat < c.toNat := by
      obtain hupper | hlower := Bool.or_eq_true_iff.mp h
      · have hle : 'A'.val ≤ c.val := (of_decide_eq_true hupper).1
        exact Nat.lt_of_lt_of_le (by decide) (UInt32.le_iff_toNat_le.mp hle)
      · have hle : 'a'.val ≤ c.val := of_decide_eq_true (Bool.and_eq_true_iff.mp hlower).1
        exact Nat.lt_of_lt_of_le (by decide) (UInt32.le_iff_toNat_le.mp hle)
    exact Nat.not_le.mpr hletter (Char.isDigit_iff_toNat.mp hdigit).2
  have hne : ∀ d, d.isAlpha = false → c ≠ d := by
    rintro d hd rfl
    rw [h] at hd
    cases hd
  simp [isCodeArgument, hdigit, hne ';' (by decide), hne '?' (by decide)]

/-- **What is recognised at the start of a text** is a code. -/
theorem afterCode?_eq_some_iff : afterCode? cs = some rest ↔ ∃ code, IsCode code ∧ cs = code ++ rest := by
  constructor
  · intro h
    unfold afterCode? at h
    split at h
    · next c ds =>
      split at h
      · next letter last hdrop =>
        split at h
        · next hcode =>
          obtain rfl := Option.some.inj h
          rw [Bool.and_eq_true, beq_iff_eq] at hcode
          obtain ⟨rfl, hletter⟩ := hcode
          refine ⟨_, ⟨ds.takeWhile isCodeArgument, letter, rfl, fun c hc => ?_, hletter⟩, ?_⟩
          · exact List.all_eq_true.mp List.all_takeWhile c hc
          · have hds : ds = ds.takeWhile isCodeArgument ++ letter :: last := by
              rw [← hdrop, List.takeWhile_append_dropWhile]
            simpa using hds
        · cases h
      · cases h
    · cases h
  · rintro ⟨code, ⟨arguments, letter, rfl, harguments, hletter⟩, rfl⟩
    have hdrop : (arguments ++ letter :: rest).dropWhile isCodeArgument = letter :: rest := by
      rw [List.dropWhile_append_of_pos harguments, List.dropWhile_cons,
        isCodeArgument_of_isAlpha hletter]
      rfl
    simp [afterCode?, hdrop, hletter]

/-- A code is at the start of a text, or somewhere behind. -/
theorem hasCode_cons_iff : HasCode (c :: cs) ↔ (∃ rest, afterCode? (c :: cs) = some rest) ∨ HasCode cs := by
  constructor
  · rintro ⟨code, hcode, hpart⟩
    rcases List.infix_cons_iff.mp hpart with ⟨rest, hrest⟩ | hpart
    · exact Or.inl ⟨rest, afterCode?_eq_some_iff.mpr ⟨code, hcode, hrest.symm⟩⟩
    · exact Or.inr ⟨code, hcode, hpart⟩
  · rintro (⟨rest, hrest⟩ | ⟨code, hcode, hpart⟩)
    · obtain ⟨code, hcode, heq⟩ := afterCode?_eq_some_iff.mp hrest
      exact ⟨code, hcode, heq ▸ (List.prefix_append code rest).isInfix⟩
    · exact ⟨code, hcode, List.infix_cons hpart⟩

theorem IsCode.escape_mem (h : IsCode ds) : escape ∈ ds := by
  obtain ⟨arguments, letter, rfl, -, -⟩ := h
  exact List.mem_cons_self

/-- No code without its first character. -/
theorem not_hasCode_of_not_mem (h : escape ∉ cs) : ¬HasCode cs :=
  fun ⟨_, hcode, hpart⟩ => h (hpart.subset hcode.escape_mem)

/-- What stands before the first escape character is in no code. -/
theorem hasCode_append_iff (h : escape ∉ ds) : HasCode (ds ++ cs) ↔ HasCode cs := by
  induction ds with
  | nil => exact Iff.rfl
  | cons d ds ih =>
    rw [List.mem_cons, not_or] at h
    rw [List.cons_append, hasCode_cons_iff, ih h.2, or_iff_right]
    rintro ⟨rest, hrest⟩
    obtain ⟨code, ⟨arguments, letter, rfl, -⟩, heq⟩ := afterCode?_eq_some_iff.mp hrest
    exact h.1 (List.cons.inj heq).1.symm

/-- A code ends with a letter, and with no other character. -/
theorem hasCode_concat_iff (h : c.isAlpha = false) : HasCode (cs ++ [c]) ↔ HasCode cs := by
  refine ⟨fun ⟨code, hcode, hpart⟩ => ?_, fun ⟨code, hcode, hpart⟩ => ?_⟩
  · rcases List.infix_concat_iff.mp hpart with hsuffix | hpart
    · obtain ⟨arguments, letter, rfl, -, hletter⟩ := hcode
      rcases List.suffix_concat_iff.mp hsuffix with hnil | ⟨ds, heq, -⟩
      · cases hnil
      · rw [(List.append_inj' heq rfl).2 |> List.cons.inj |>.1] at hletter
        exact absurd (h.symm.trans hletter) (by decide)
    · exact ⟨code, hcode, hpart⟩
  · exact ⟨code, hcode, List.infix_append_of_infix_left hpart⟩

/-- A line break is in no code. -/
theorem IsCode.lineBreak_not_mem (h : IsCode ds) : '\n' ∉ ds := by
  obtain ⟨arguments, letter, rfl, harguments, hletter⟩ := h
  simp only [List.cons_append, List.mem_cons, List.mem_append, List.not_mem_nil, or_false, not_or]
  refine ⟨by decide, by decide, fun hmem => ?_, ?_⟩
  · exact absurd (harguments _ hmem) (by decide)
  · rintro rfl
    exact absurd hletter (by decide)

/-! ### What is left of a text -/

/-- **A text without a code is left as it is.** -/
theorem withoutCodes_of_not_hasCode (h : ¬HasCode cs) : withoutCodes cs = cs := by
  induction cs with
  | nil => exact withoutCodes_nil
  | cons c cs ih =>
    rw [hasCode_cons_iff, not_or, not_exists] at h
    rw [withoutCodes_cons_none (Option.eq_none_iff_forall_ne_some.mpr h.1), ih h.2]

/-- **A text has the line breaks that are left of it.** -/
theorem lineBreak_mem_withoutCodes : '\n' ∈ withoutCodes cs ↔ '\n' ∈ cs := by
  induction cs using withoutCodes.induct with
  | case1 => rw [withoutCodes_nil]
  | case2 c cs rest hsome ih =>
    obtain ⟨code, hcode, heq⟩ := afterCode?_eq_some_iff.mp hsome
    rw [withoutCodes_cons_some hsome, ih, heq, List.mem_append, or_iff_right hcode.lineBreak_not_mem]
  | case3 c cs hnone ih => rw [withoutCodes_cons_none hnone, List.mem_cons, List.mem_cons, ih]

/-- No escape character is added. -/
theorem count_withoutCodes_le (cs : List Char) : (withoutCodes cs).count escape ≤ cs.count escape := by
  induction cs using withoutCodes.induct with
  | case1 => simp
  | case2 c cs rest hsome ih =>
    obtain ⟨code, -, heq⟩ := afterCode?_eq_some_iff.mp hsome
    rw [withoutCodes_cons_some hsome, heq, List.count_append]
    omega
  | case3 c cs hnone ih =>
    rw [withoutCodes_cons_none hnone, List.count_cons, List.count_cons]
    omega

/-- **With a code, an escape character is lost.** -/
theorem count_withoutCodes_lt (h : HasCode cs) : (withoutCodes cs).count escape < cs.count escape := by
  induction cs using withoutCodes.induct with
  | case1 =>
    obtain ⟨code, hcode, hpart⟩ := h
    exact absurd (hpart.subset hcode.escape_mem) List.not_mem_nil
  | case2 c cs rest hsome _ =>
    obtain ⟨code, hcode, heq⟩ := afterCode?_eq_some_iff.mp hsome
    have hlost : 0 < code.count escape := List.count_pos_iff.mpr hcode.escape_mem
    have hrest := count_withoutCodes_le rest
    rw [withoutCodes_cons_some hsome, heq, List.count_append]
    omega
  | case3 c cs hnone ih =>
    rw [hasCode_cons_iff, hnone] at h
    have hrest := ih (h.resolve_left (by simp))
    rw [withoutCodes_cons_none hnone, List.count_cons, List.count_cons]
    omega

/-! ### What is not changed -/

/-- **Without an escape character**, a text is echoed as it is. -/
theorem echoed_of_not_mem {text : String} (h : escape ∉ text.toList) : echoed text = text ++ "\n" := by
  rw [echoed, withoutCodes_of_not_hasCode (not_hasCode_of_not_mem h), String.ofList_toList]

/-- A numeral has no escape character in it. -/
theorem echoed_numeral (n : Nat) : echoed (String.ofList (numeral n)) = toString n ++ "\n" := by
  refine echoed_of_not_mem fun h => ?_
  rw [String.toList_ofList] at h
  exact absurd (isDigit_of_mem_numeral _ h) (by decide)

namespace Json

theorem escape_not_mem_hexDigits (width n : Nat) : escape ∉ hexDigits width n := by
  have hdigit : ∀ d < 16, d.digitChar ≠ escape := by decide
  induction width generalizing n with
  | zero => exact List.not_mem_nil
  | succ width ih =>
    rw [hexDigits, List.mem_append, List.mem_singleton, not_or]
    exact ⟨ih _, (hdigit _ (Nat.mod_lt n (by decide))).symm⟩

/-- A character that cannot be printed is written by its number. -/
theorem escape_not_mem_escaped (c : Char) : escape ∉ escaped c := by
  have hunit (n : Nat) : escape ∉ unitEscape n := by
    rw [unitEscape, List.mem_cons, List.mem_cons, not_or, not_or]
    exact ⟨by decide, by decide, escape_not_mem_hexDigits 4 n⟩
  unfold escaped
  repeat' split
  any_goals decide
  any_goals exact hunit _
  · next hprintable =>
    rintro hmem
    cases List.mem_singleton.mp hmem
    exact absurd hprintable (by decide)
  · rw [List.mem_append, not_or]
    exact ⟨hunit _, hunit _⟩

theorem escape_not_mem_writeText (s : String) : escape ∉ writeText s := by
  simp only [writeText, List.cons_append, List.mem_cons, List.mem_append, List.mem_flatMap, List.not_mem_nil,
    or_false, not_or, not_exists, not_and]
  exact ⟨by decide, fun c _ => escape_not_mem_escaped c, by decide⟩

/-- Brackets, commas and the starts of lines add no escape character to the members. -/
theorem escape_not_mem_block {first last : Char} {members : List (List Char)} (level : Nat)
    (hfirst : first ≠ escape) (hlast : last ≠ escape) (h : ∀ m ∈ members, escape ∉ m) :
    escape ∉ block level first last members := by
  have hline (level : Nat) : escape ∉ newLine level := by
    rw [newLine, List.mem_cons, not_or]
    exact ⟨by decide, fun hmem => absurd (List.eq_of_mem_replicate hmem) (by decide)⟩
  unfold block
  split
  · simp [hfirst.symm, hlast.symm]
  · have hmembers : escape ∉ (',' :: newLine (level + 1)).intercalate members :=
      not_mem_intercalate (by rw [List.mem_cons, not_or]; exact ⟨by decide, hline _⟩) h
    simp [hfirst.symm, hlast.symm, hline, hmembers]

/-- **A value is written without an escape character.** -/
theorem escape_not_mem_write (v : Json) (level : Nat) : escape ∉ v.write level := by
  match v with
  | null => rw [write]; decide
  | bool x => cases x <;> (rw [write]; decide)
  | nat n =>
    rw [write]
    exact fun h => absurd (isDigit_of_mem_numeral _ h) (by decide)
  | text s => rw [write]; exact escape_not_mem_writeText s
  | list items =>
    rw [write, writeItems_eq]
    refine escape_not_mem_block level (by decide) (by decide) fun m hm => ?_
    obtain ⟨item, _, rfl⟩ := List.mem_map.mp hm
    exact escape_not_mem_write item (level + 1)
  | record fields =>
    rw [write, writeFields_eq]
    refine escape_not_mem_block level (by decide) (by decide) fun m hm => ?_
    obtain ⟨⟨name, value⟩, hmem, rfl⟩ := List.mem_map.mp hm
    have hsmaller : sizeOf value < sizeOf fields := by
      have hpair := List.sizeOf_lt_of_mem hmem
      rw [Prod.mk.sizeOf_spec] at hpair
      omega
    rw [writeField, List.mem_append, List.mem_cons, List.mem_cons, not_or, not_or, not_or]
    exact ⟨escape_not_mem_writeText name, by decide, by decide, escape_not_mem_write value (level + 1)⟩

/-- **JSON is echoed as it is.** -/
theorem echoed_print (v : Json) : echoed v.print = v.print ++ "\n" :=
  echoed_of_not_mem (by rw [print, String.toList_ofList]; exact escape_not_mem_write v 0)

end Json

end NoteSearch.Console
