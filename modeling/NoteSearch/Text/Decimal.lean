/-!
# Decimal numerals

Whole numbers as they are written in dates, error messages and tables: in decimal digits, and where a
column or a format wants it, with zeros in front.
-/

namespace NoteSearch.Text

/-- The decimal numeral of a number. -/
def numeral (n : Nat) : List Char :=
  Nat.toDigits 10 n

/-- The decimal numeral of a number with zeros in front, so that it has at least `width` digits. -/
def paddedNumeral (width n : Nat) : List Char :=
  List.replicate (width - (numeral n).length) '0' ++ numeral n

/-- The number that a run of the digits `0` to `9` spells, whatever zeros stand in front. -/
def readNumeral? (cs : List Char) : Option Nat :=
  if cs != [] && cs.all Char.isDigit then
    some (cs.foldl (fun n c => 10 * n + (c.toNat - '0'.toNat)) 0)
  else none

end NoteSearch.Text
