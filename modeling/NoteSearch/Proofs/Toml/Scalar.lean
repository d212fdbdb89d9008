import NoteSearch.Proofs.Toml.Number

/-!
# Values that are written and read

A text, a whole number and a truth value are written in a way in which they are read again, at the end of a
line (`NoteSearch.Toml.Scalar.value_write`). The reader of values tries one kind of value after another, and
what is written of one kind does not look like another that comes before.
-/

namespace NoteSearch.Toml

open NoteSearch.Config (Value)
open Text

/-! ### Texts -/

/-- A character that is written by its number is read again. -/
theorem hexChar?_hexDigits {c : Char} (h : c.toNat < 128) : hexChar? (hexDigits 4 c.toNat) = some c := by
  have hvalid : c.toNat.isValidChar := c.valid
  have hdigits : hexNumber? (hexDigits 4 c.toNat) = some c.toNat :=
    hexNumber?_hexDigits (Nat.lt_trans h (by decide))
  simp [hexChar?, hdigits, hvalid]

/-- What must not stand in a line as it is has a number below 128. -/
theorem toNat_lt_of_isForbidden {c : Char} (h : isForbidden c = true) : c.toNat < 128 := by
  rw [isForbidden, Bool.or_eq_true, Bool.and_eq_true, decide_eq_true_eq, beq_iff_eq] at h
  omega

/-- Four hexadecimal digits are four characters. -/
theorem exists_hexDigits_eq (n : Nat) : ∃ a b c d, hexDigits 4 n = [a, b, c, d] :=
  ⟨_, _, _, _, rfl⟩

/-- A character without a meaning of its own is read as itself. -/
theorem basicLine_cons {c : Char} {cs : List Char} (hquote : c ≠ '"') (hbackslash : c ≠ '\\')
    (hallowed : isForbidden c = false) : basicLine (c :: cs) = push c (basicLine cs) := by
  rw [basicLine.eq_def]
  split
  · next h => cases h
  · next h => exact absurd (List.cons.inj h).1 hquote
  · next h => exact absurd (List.cons.inj h).1 hbackslash
  · next h => exact absurd (List.cons.inj h).1 hbackslash
  · next h => exact absurd (List.cons.inj h).1 hbackslash
  · next h =>
    obtain ⟨rfl, rfl⟩ := List.cons.inj h
    rw [if_neg]
    simp [hallowed, hbackslash]

variable {cs rest : List Char}

/-- **A character that is written between double quotes** is read as itself, and what follows is read on. -/
theorem basicLine_escaped (c : Char) (cs : List Char) :
    basicLine (escaped c ++ cs) = push c (basicLine cs) := by
  unfold escaped
  split
  · next h => rw [eq_of_beq h]; rfl
  split
  · next h => rw [eq_of_beq h]; rfl
  split
  · next h => rw [eq_of_beq h]; rfl
  split
  · next h => rw [eq_of_beq h]; rfl
  split
  · next h => rw [eq_of_beq h]; rfl
  split
  · next h => rw [eq_of_beq h]; rfl
  split
  · next h =>
    -- what is written by its number is a control character
    have hchar := hexChar?_hexDigits (toNat_lt_of_isForbidden h)
    obtain ⟨a, b, d, e, hdigits⟩ := exists_hexDigits_eq c.toNat
    rw [hdigits] at hchar ⊢
    show basicLine ('\\' :: 'u' :: a :: b :: d :: e :: cs) = _
    rw [basicLine, hchar]
  · next hquote hbackslash _ _ _ _ hallowed =>
    exact basicLine_cons (by simpa using hquote) (by simpa using hbackslash) (by simpa using hallowed)

/-- **A text that is written between double quotes is read again.** -/
theorem basicLine_flatMap_escaped (text rest : List Char) :
    basicLine (text.flatMap escaped ++ '"' :: rest) = .ok (text, rest) := by
  induction text with
  | nil => rfl
  | cons c text ih =>
    rw [List.flatMap_cons, List.append_assoc, basicLine_escaped, ih]
    rfl

/-- A character that is written does not start with a quote. -/
theorem exists_escaped_eq_cons (c : Char) : ∃ d ds, escaped c = d :: ds ∧ d ≠ '"' := by
  by_cases h : c = '"'
  · exact ⟨'\\', ['"'], by simp [escaped, h], by decide⟩
  · unfold escaped
    rw [if_neg (by simpa using h)]
    repeat'
      split
      · exact ⟨'\\', _, rfl, by decide⟩
    exact ⟨c, [], rfl, h⟩

/-- A text that is written is no text of several lines: one quote in front is not followed by two more. -/
theorem quoted?_writeText (s : String) (rest : List Char) :
    quoted? (writeText s ++ '\n' :: rest) = some (.ok (s.toList, '\n' :: rest)) := by
  have hwritten : writeText s ++ '\n' :: rest
      = '"' :: (s.toList.flatMap escaped ++ '"' :: '\n' :: rest) := by
    simp [writeText]
  rw [hwritten, ← basicLine_flatMap_escaped s.toList]
  cases s.toList with
  | nil => rfl
  | cons c text =>
    obtain ⟨d, ds, hescaped, hd⟩ := exists_escaped_eq_cons c
    rw [List.flatMap_cons, hescaped, List.cons_append, List.cons_append, quoted?]
    intro _ heq
    exact hd (List.cons.inj heq).1

/-- What is written has no carriage return in it. -/
theorem not_mem_escaped (c : Char) : '\r' ∉ escaped c := by
  have hdigits : ∀ n < 128, '\r' ∉ hexDigits 4 n := by decide
  unfold escaped
  split
  · decide
  split
  · decide
  split
  · decide
  split
  · decide
  split
  · decide
  split
  · decide
  split
  · next h =>
    have hhex := hdigits c.toNat (toNat_lt_of_isForbidden h)
    simp [hhex]
  · next _ _ _ hreturn _ _ _ => simpa using Ne.symm (by simpa using hreturn)

/-! ### Values -/

/-- A value that is neither a truth value nor a quoted text is a date, a time or a number. -/
theorem scalar_cons {c : Char} {cs : List Char} (ht : c ≠ 't') (hf : c ≠ 'f') :
    scalar (c :: cs) =
      match (quoted? (c :: cs)).map (·.map fun (s, rest) => (Value.text (String.ofList s), rest))
          <|> date? (c :: cs) <|> time? (c :: cs) <|> number? (c :: cs) <|> special? (c :: cs) with
      | some reading => reading
      | none => .error .malformed := by
  rw [scalar.eq_def]
  split
  · next heq => exact absurd (List.cons.inj heq).1 ht
  · next heq => exact absurd (List.cons.inj heq).1 hf
  · rfl

/-- Without a quote in front there is no quoted text. -/
theorem quoted?_cons_eq_none {c : Char} {cs : List Char} (hdouble : c ≠ '"') (hsingle : c ≠ '\'') :
    quoted? (c :: cs) = none := by
  rw [quoted?.eq_def]
  split
  · next heq => exact absurd (List.cons.inj heq).1 hdouble
  · next heq => exact absurd (List.cons.inj heq).1 hdouble
  · next heq => exact absurd (List.cons.inj heq).1 hsingle
  · next heq => exact absurd (List.cons.inj heq).1 hsingle
  · rfl

/-- **A value that is written**: it holds no other value. -/
inductive Scalar
  /-- A text. -/
  | text (s : String)
  /-- A whole number. -/
  | integer (n : Int)
  /-- A truth value. -/
  | boolean (b : Bool)
  deriving DecidableEq, Repr

namespace Scalar

/-- How it is written. -/
def write : Scalar → List Char
  | text s => writeText s
  | integer n => writeInteger n
  | boolean b => writeBoolean b

/-- The value that it is. -/
def toValue : Scalar → Value
  | text s => .text s
  | integer n => .integer n
  | boolean b => .boolean b

/-- It is complete in itself only as far as it holds nothing. -/
theorem isClosed_toValue (v : Scalar) : isClosed v.toValue = false := by
  cases v <;> rfl

/-- Whether it is written at all. -/
def isWritten : Scalar → Bool
  | integer n => isWritable n
  | _ => true

/-- **What is written is read again**, at the end of a line. -/
theorem scalar_write {v : Scalar} (h : v.isWritten = true) :
    scalar (v.write ++ '\n' :: rest) = .ok (v.toValue, '\n' :: rest) := by
  cases v with
  | text s =>
    show scalar (writeText s ++ _) = .ok (.text s, _)
    have hquoted := quoted?_writeText s rest
    rw [writeText, List.cons_append, List.cons_append] at hquoted ⊢
    rw [scalar_cons (by decide) (by decide), hquoted]
    simp [Except.map]
  | integer n =>
    show scalar (writeInteger n ++ _) = .ok (.integer n, _)
    obtain ⟨hdate, htime⟩ := calendar_writeInteger n rest
    have hnumber := number?_writeInteger h rest
    obtain ⟨c, cs, hcons, hc⟩ := exists_writeInteger_eq_cons n
    rw [hcons, List.cons_append] at hdate htime hnumber ⊢
    rw [scalar_cons (ne_of_isDigit_or hc (by decide) (by decide)) (ne_of_isDigit_or hc (by decide) (by decide)),
      quoted?_cons_eq_none (ne_of_isDigit_or hc (by decide) (by decide))
        (ne_of_isDigit_or hc (by decide) (by decide)), hdate, htime, hnumber]
    rfl
  | boolean b => cases b <;> rfl

/-- What is written starts with none of the brackets that open a list or a table, and with no space. -/
theorem exists_write_eq_cons (v : Scalar) :
    ∃ c cs, v.write = c :: cs ∧ c ≠ '[' ∧ c ≠ '\x7b' ∧ isSpace c = false := by
  cases v with
  | text s => exact ⟨'"', _, rfl, by decide, by decide, by decide⟩
  | integer n =>
    obtain ⟨c, cs, hcons, hc⟩ := exists_writeInteger_eq_cons n
    refine ⟨c, cs, hcons, ne_of_isDigit_or hc (by decide) (by decide),
      ne_of_isDigit_or hc (by decide) (by decide), ?_⟩
    rw [isSpace, Bool.or_eq_false_iff, beq_eq_false_iff_ne, beq_eq_false_iff_ne]
    exact ⟨ne_of_isDigit_or hc (by decide) (by decide), ne_of_isDigit_or hc (by decide) (by decide)⟩
  | boolean b => cases b <;> exact ⟨_, _, rfl, by decide, by decide, by decide⟩

/-- **A value that is written is read again**, at the end of a line. -/
theorem value_write {v : Scalar} (h : v.isWritten = true) :
    value (v.write ++ '\n' :: rest) = .ok (v.toValue, '\n' :: rest) := by
  obtain ⟨c, cs, hcons, hlist, htable, -⟩ := v.exists_write_eq_cons
  rw [← scalar_write h, value, hcons, List.cons_append, valueWithin.eq_def]
  simp only
  split
  · next heq => exact absurd (List.cons.inj heq).1 hlist
  · next heq => exact absurd (List.cons.inj heq).1 htable
  · rfl

/-- What is written has no carriage return in it. -/
theorem not_mem_write (v : Scalar) : '\r' ∉ v.write := by
  cases v with
  | text s => simp [write, writeText, not_mem_escaped]
  | integer n =>
    have hnumeral : ∀ m, '\r' ∉ numeral m := fun m hm => by
      cases isDigit_of_mem_numeral _ hm
    cases n with
    | ofNat n => exact hnumeral n
    | negSucc n =>
      show '\r' ∉ '-' :: numeral (n + 1)
      simp [hnumeral]
  | boolean b => cases b <;> decide

end Scalar

end NoteSearch.Toml
