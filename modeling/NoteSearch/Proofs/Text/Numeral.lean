import Mathlib.Algebra.Group.Nat.Defs
import NoteSearch.Text.Decimal
import NoteSearch.Text.Hexadecimal

/-!
# Numerals are read again

A number is known by its numeral: by the decimal one (`NoteSearch.Text.numeral_inj`), and by the hexadecimal
one where that has digits enough (`NoteSearch.Text.hexNumber?_hexDigits`).
-/

namespace NoteSearch.Text

variable {m n : Nat}

/-! ### Decimal numerals -/

/-- A numeral consists of digits. -/
theorem isDigit_of_mem_numeral : ∀ c ∈ numeral n, c.isDigit = true :=
  fun _ => Nat.isDigit_of_mem_toDigits (by decide) (by decide)

/-- **Different numbers have different numerals.** -/
theorem numeral_inj (h : numeral m = numeral n) : m = n := by
  have hread := congrArg (Nat.ofDigitChars 10 · 0) h
  have hten : ∀ k, Nat.ofDigitChars 10 (numeral k) 0 = k := fun _ =>
    Nat.ofDigitChars_toDigits (by decide) (by decide)
  simpa only [hten] using hread

/-! ### Hexadecimal numerals -/

@[simp] theorem length_hexDigits (width n : Nat) : (hexDigits width n).length = width := by
  induction width generalizing n with
  | zero => rfl
  | succ width ih => rw [hexDigits, List.length_append, ih, List.length_singleton]

theorem hexValue?_digitChar : ∀ d < 16, hexValue? d.digitChar = some d := by
  decide

/-- One more digit. -/
theorem hexNumber?_concat (digits : List Char) (c : Char) :
    hexNumber? (digits ++ [c]) = (hexNumber? digits).bind fun n => (hexValue? c).map (16 * n + ·) := by
  rw [hexNumber?, List.foldlM_append]
  exact congrArg _ (funext fun n => by simp)

/-- **A number is read from its digits**, if there are enough of them. -/
theorem hexNumber?_hexDigits {width : Nat} (h : n < 16 ^ width) :
    hexNumber? (hexDigits width n) = some n := by
  induction width generalizing n with
  | zero =>
    obtain rfl : n = 0 := by omega
    rfl
  | succ width ih =>
    have hrest : n / 16 < 16 ^ width := by
      rw [Nat.pow_succ] at h
      omega
    rw [hexDigits, hexNumber?_concat, ih hrest, Option.bind_some,
      hexValue?_digitChar _ (Nat.mod_lt n (by decide)), Option.map_some, Nat.div_add_mod]

end NoteSearch.Text
