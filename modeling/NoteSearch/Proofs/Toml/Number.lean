import NoteSearch.Proofs.Text.Numeral
import NoteSearch.Toml.Write

/-!
# Numbers that are written and read

A whole number is written in decimal, with a hyphen in front if it is negative, and is read again at the end
of a line (`NoteSearch.Toml.number?_writeInteger`), if it has no more digits than are read. Dates and times
start with digits, too, and are tried first; but digits at the end of a line are followed neither by the
hyphen of a date nor by the colon of a time (`NoteSearch.Toml.calendar_writeInteger`).
-/

namespace NoteSearch.Toml

open Text

variable {cs rest : List Char}

/-! ### Numbers -/

/-- The value of a decimal digit. -/
def digitValue (c : Char) : Nat :=
  c.toNat - '0'.toNat

theorem digitIn?_ten {c : Char} (h : c.isDigit = true) : digitIn? 10 c = some (digitValue c) := by
  have hrange : '0' ≤ c ∧ c ≤ '9' := by simpa [Char.isDigit, Char.le_def] using h
  have hsmall : digitValue c < 10 := by
    obtain ⟨-, hhigh⟩ := Char.isDigit_iff_toNat.mp h
    show c.toNat - 48 < 10
    change c.toNat ≤ 57 at hhigh
    omega
  rw [digitIn?, hexValue?, if_pos (by simpa using hrange)]
  exact if_pos (by simpa [digitValue] using hsmall)

/-- Digits are read up to the end of the line. -/
theorem moreDigits_append {digits : List Char} (h : ∀ c ∈ digits, c.isDigit = true) :
    moreDigits (digitIn? 10) (digits ++ '\n' :: rest) = (digits.map digitValue, '\n' :: rest) := by
  induction digits with
  | nil => rfl
  | cons c digits ih =>
    rw [List.forall_mem_cons] at h
    rw [List.cons_append, moreDigits.eq_def]
    simp only [digitIn?_ten h.1, ih h.2, List.map_cons]

/-- The number that digits spell is the one that is read. -/
theorem ofDigits_map_digitValue (digits : List Char) :
    ofDigits 10 (digits.map digitValue) = Nat.ofDigitChars 10 digits 0 := by
  rw [ofDigits, List.foldl_map, Nat.ofDigitChars_eq_foldl]
  rfl

/-- No numeral but that of zero starts with a zero. -/
theorem eq_zero_of_numeral_eq_cons {n : Nat} (h : numeral n = '0' :: cs) : n = 0 := by
  rw [numeral] at h
  induction n using Nat.base_induction 10 (by decide) generalizing cs with
  | single m hm =>
    rw [Nat.toDigits_of_lt_base hm] at h
    have hdigit : m.digitChar = '0' := (List.cons.inj h).1
    have hvalue := Nat.toNat_digitChar_sub_48_of_lt_ten hm
    rw [hdigit] at hvalue
    exact hvalue.symm
  | digit m k hk hm ih =>
    -- the first digit is that of the number without its last digit
    rw [← Nat.toDigits_append_toDigits (by decide) hm hk] at h
    obtain ⟨c, digits, hdigits⟩ := List.exists_cons_of_ne_nil (Nat.toDigits_ne_nil (n := m) (b := 10))
    rw [hdigits, List.cons_append] at h
    rw [(List.cons.inj h).1] at hdigits
    exact absurd (ih hdigits) (Nat.ne_of_gt hm)

/-- The numeral of zero is a zero and nothing else. -/
theorem of_numeral_eq_cons_zero {n : Nat} (h : numeral n = '0' :: cs) : n = 0 ∧ cs = [] := by
  obtain rfl := eq_zero_of_numeral_eq_cons h
  exact ⟨rfl, (List.cons.inj (h.symm.trans (Nat.toDigits_zero 10))).2⟩

/-- A numeral starts with a digit. -/
theorem exists_numeral_eq_cons (n : Nat) : ∃ c digits, numeral n = c :: digits ∧ c.isDigit = true := by
  obtain ⟨c, digits, h⟩ := List.exists_cons_of_ne_nil (Nat.toDigits_ne_nil (n := n) (b := 10))
  exact ⟨c, digits, h, isDigit_of_mem_numeral c (h ▸ List.mem_cons_self)⟩

/-- A numeral is read up to the end of the line. -/
theorem wholePart?_numeral (n : Nat) :
    wholePart? (numeral n ++ '\n' :: rest) = some ((numeral n).map digitValue, '\n' :: rest) := by
  obtain ⟨c, digits, hcons, hdigit⟩ := exists_numeral_eq_cons n
  rw [wholePart?.eq_def]
  split
  · next cs h =>
    -- the numeral is that of zero
    rw [hcons, List.cons_append] at h
    obtain ⟨rfl, rfl⟩ := List.cons.inj h
    obtain ⟨rfl, rfl⟩ := of_numeral_eq_cons_zero hcons
    rfl
  · have hdigits := isDigit_of_mem_numeral (n := n)
    rw [hcons, List.forall_mem_cons] at hdigits
    rw [hcons, List.cons_append, digits?, digitIn?_ten hdigit, Option.map_some, moreDigits_append hdigits.2]
    rfl

/-- A numeral has no prefix of another base. -/
theorem basedNumber?_numeral (n : Nat) : basedNumber? (numeral n ++ '\n' :: rest) = none := by
  obtain ⟨c, digits, hcons, hdigit⟩ := exists_numeral_eq_cons n
  rw [hcons, List.cons_append]
  by_cases hc : c = '0'
  · subst hc
    obtain ⟨rfl, rfl⟩ := of_numeral_eq_cons_zero hcons
    rfl
  · simp [basedNumber?, hc]

/-- The sign of a whole number that is written, and its numeral. -/
theorem sign_writeInteger (n : Int) :
    sign (writeInteger n ++ '\n' :: rest) = (decide (n < 0), numeral n.natAbs ++ '\n' :: rest) := by
  cases n with
  | ofNat n =>
    obtain ⟨c, digits, hcons, hdigit⟩ := exists_numeral_eq_cons n
    show sign (numeral n ++ _) = (_, numeral n ++ _)
    rw [hcons, List.cons_append, sign]
    · rfl
    · rintro _ ⟨⟩
      cases hdigit
    · rintro _ ⟨⟩
      cases hdigit
  | negSucc n =>
    rw [decide_eq_true (Int.negSucc_lt_zero n)]
    rfl

/-- **A whole number that is written is read again**, at the end of a line. -/
theorem number?_writeInteger {n : Int} (h : isWritable n = true) (rest : List Char) :
    number? (writeInteger n ++ '\n' :: rest) = some (.ok (.integer n, '\n' :: rest)) := by
  have hbased : basedNumber? (writeInteger n ++ '\n' :: rest) = none := by
    cases n with
    | ofNat n => exact basedNumber?_numeral n
    | negSucc n => rfl
  have hlength : ¬maxDigits < ((numeral n.natAbs).map digitValue).length := by
    rw [List.length_map]
    exact Nat.not_lt.mpr (of_decide_eq_true h)
  have hvalue : ofDigits 10 ((numeral n.natAbs).map digitValue) = n.natAbs := by
    rw [ofDigits_map_digitValue, numeral, Nat.ofDigitChars_ten_toDigits]
  have hrest : skipExponent (skipFraction ('\n' :: rest)) = '\n' :: rest := rfl
  have hsigned : (if decide (n < 0) = true then -(n.natAbs : Int) else n.natAbs) = n := by
    by_cases hn : n < 0
    · rw [if_pos (decide_eq_true hn)]
      omega
    · rw [if_neg (by simpa using hn)]
      omega
  simp only [number?, hbased, sign_writeInteger, wholePart?_numeral, Option.bind_eq_bind, Option.bind_some,
    hrest, Nat.lt_irrefl, if_false, if_neg hlength, hvalue, hsigned]
  rfl

/-- A whole number that is written starts with a digit or a hyphen. -/
theorem exists_writeInteger_eq_cons (n : Int) :
    ∃ c cs, writeInteger n = c :: cs ∧ (c.isDigit = true ∨ c = '-') := by
  cases n with
  | ofNat n =>
    obtain ⟨c, digits, hcons, hdigit⟩ := exists_numeral_eq_cons n
    exact ⟨c, digits, hcons, .inl hdigit⟩
  | negSucc n => exact ⟨'-', _, rfl, .inr rfl⟩

/-- So it starts with no other character. -/
theorem ne_of_isDigit_or {c d : Char} (h : c.isDigit = true ∨ c = '-') (hd : d.isDigit = false)
    (hhyphen : d ≠ '-') : c ≠ d := by
  rintro rfl
  obtain hdigit | rfl := h
  · rw [hd] at hdigit
    cases hdigit
  · exact hhyphen rfl

/-! ### Dates and times -/

/-- What is left after some digits at the end of a line are digits at the end of a line. -/
theorem exists_rest_of_fixedDigits? {count : Nat} {digits ds r : List Char}
    (hdigits : ∀ c ∈ digits, c.isDigit = true)
    (h : fixedDigits? count (digits ++ '\n' :: rest) = some (ds, r)) :
    ∃ digits', (∀ c ∈ digits', c.isDigit = true) ∧ r = digits' ++ '\n' :: rest := by
  induction count generalizing digits ds with
  | zero =>
    cases h
    exact ⟨digits, hdigits, rfl⟩
  | succ count ih =>
    cases digits with
    | nil => cases h
    | cons c digits =>
      rw [List.forall_mem_cons] at hdigits
      rw [List.cons_append, fixedDigits?, if_pos hdigits.1] at h
      obtain ⟨⟨ds', r'⟩, hmore, heq⟩ := Option.map_eq_some_iff.mp h
      cases heq
      exact ih hdigits.2 hmore

/-- What is left after a field, too. -/
theorem exists_rest_of_field? {count least most n : Nat} {digits r : List Char}
    (hdigits : ∀ c ∈ digits, c.isDigit = true)
    (h : field? count least most (digits ++ '\n' :: rest) = some (n, r)) :
    ∃ digits', (∀ c ∈ digits', c.isDigit = true) ∧ r = digits' ++ '\n' :: rest := by
  obtain ⟨⟨ds, r'⟩, hfixed, h⟩ := Option.bind_eq_some_iff.mp h
  obtain ⟨digits', hdigits', rfl⟩ := exists_rest_of_fixedDigits? hdigits hfixed
  refine ⟨digits', hdigits', ?_⟩
  dsimp only at h
  split at h <;> cases h
  rfl

/-- A mark that is no digit does not follow a field of digits at the end of a line. -/
theorem after?_of_field? {count least most n : Nat} {mark : Char} {digits r : List Char}
    (hmark : mark.isDigit = false) (hline : mark ≠ '\n') (hdigits : ∀ c ∈ digits, c.isDigit = true)
    (h : field? count least most (digits ++ '\n' :: rest) = some (n, r)) : after? mark r = none := by
  obtain ⟨digits', hdigits', rfl⟩ := exists_rest_of_field? hdigits h
  cases digits' with
  | nil => exact if_neg (by simpa using Ne.symm hline)
  | cons c digits' =>
    refine if_neg ?_
    rw [beq_iff_eq]
    rintro rfl
    rw [hdigits' c List.mem_cons_self] at hmark
    cases hmark

/-- Digits at the end of a line are no date. -/
theorem date?_eq_none {digits : List Char} (hdigits : ∀ c ∈ digits, c.isDigit = true) :
    date? (digits ++ '\n' :: rest) = none := by
  rw [date?]
  cases hyear : field? 4 0 9999 (digits ++ '\n' :: rest) with
  | none => rfl
  | some x =>
    obtain ⟨year, r⟩ := x
    have hmark : after? '-' r = none := after?_of_field? (by decide) (by decide) hdigits hyear
    simp [hmark]

/-- Nor are they a time. -/
theorem time?_eq_none {digits : List Char} (hdigits : ∀ c ∈ digits, c.isDigit = true) :
    time? (digits ++ '\n' :: rest) = none := by
  rw [time?, afterTime?]
  cases hhour : field? 2 0 23 (digits ++ '\n' :: rest) with
  | none => rfl
  | some x =>
    obtain ⟨hour, r⟩ := x
    have hmark : after? ':' r = none := after?_of_field? (by decide) (by decide) hdigits hhour
    simp [hmark]

/-- **A whole number that is written is no date and no time.** -/
theorem calendar_writeInteger (n : Int) (rest : List Char) :
    date? (writeInteger n ++ '\n' :: rest) = none ∧ time? (writeInteger n ++ '\n' :: rest) = none := by
  cases n with
  | ofNat n => exact ⟨date?_eq_none isDigit_of_mem_numeral, time?_eq_none isDigit_of_mem_numeral⟩
  | negSucc n => exact ⟨rfl, rfl⟩

end NoteSearch.Toml
