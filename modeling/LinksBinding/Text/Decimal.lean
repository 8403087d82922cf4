import LinksBinding.Text.CharClass

/-!
# Decimal numerals

Writing natural numbers, and reading the bounded ones that spans, options and the command line
hold. A numeral may have leading zeros; `readBelow?` also admits one leading plus sign. Every
written number reads back (`readDigits?_digits`).
-/

namespace LinksBinding.Text

/-- The decimal digits of a number, without leading zeros. -/
def digits (n : Nat) : List Char := Nat.toDigits 10 n

/-- The number a non-empty run of decimal digits stands for. -/
def readDigits? (text : List Char) : Option Nat :=
  if text.isEmpty then none
  else if text.all isAsciiDigit then some (Nat.ofDigitChars 10 text 0) else none

/-- A number below `bound`, with an optional plus sign in front. -/
def readBelow? (bound : Nat) (text : List Char) : Option Nat :=
  let unsigned := match text with
    | '+' :: rest => rest
    | _ => text
  (readDigits? unsigned).filter (· < bound)

theorem isAsciiDigit_iff_isDigit (c : Char) : isAsciiDigit c = c.isDigit := by
  simp [isAsciiDigit, Char.isDigit, Char.le_def, UInt32.le_iff_toNat_le]

/-- Numbers are written with digits only. -/
theorem isAsciiDigit_of_mem_digits {n : Nat} {c : Char} (mem : c ∈ digits n) :
    isAsciiDigit c = true := by
  rw [isAsciiDigit_iff_isDigit]
  exact Nat.isDigit_of_mem_toDigits (by omega) (by omega) mem

theorem readDigits?_digits (n : Nat) : readDigits? (digits n) = some n := by
  have nonempty : (digits n).isEmpty = false := by
    simp [digits, Nat.toDigits_ne_nil]
  have decimal : (digits n).all isAsciiDigit = true :=
    List.all_eq_true.mpr fun _ mem => isAsciiDigit_of_mem_digits mem
  rw [readDigits?, nonempty, decimal]
  simp [digits, Nat.ofDigitChars_toDigits]

/-- Numbers below the bound are read back. They are written without a plus sign. -/
theorem readBelow?_digits {bound n : Nat} (below : n < bound) :
    readBelow? bound (digits n) = some n := by
  have unsigned : ∀ rest, digits n = '+' :: rest → False := by
    intro rest signed
    have digit := isAsciiDigit_of_mem_digits (n := n) (c := '+') (by rw [signed]; simp)
    exact absurd digit (by decide)
  rw [readBelow?, readDigits?_digits, Option.filter_some, if_pos (by simpa using below)]
  exact unsigned

end LinksBinding.Text
