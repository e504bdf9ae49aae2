/-!
# Decimal numerals

Numerals without a sign in ASCII digits.  `readDecimal_decimal` says that a written
number reads back.
-/

namespace ServiceDirectory.Text

/-- The decimal digits of `n`, without leading zeros. -/
def decimal (n : Nat) : List Char := Nat.toDigits 10 n

/-- The number that one or more ASCII digits denote; leading zeros are allowed. -/
def readDecimal (s : List Char) : Option Nat :=
  if s.isEmpty || !s.all Char.isDigit then none else some (Nat.ofDigitChars 10 s 0)

@[simp]
theorem readDecimal_decimal (n : Nat) : readDecimal (decimal n) = some n := by
  have hne : (decimal n).isEmpty = false := by
    simp [decimal, Nat.toDigits_ne_nil]
  have hdigits : (decimal n).all Char.isDigit = true :=
    List.all_eq_true.2 fun c hc => Nat.isDigit_of_mem_toDigits (by decide) (by decide) hc
  rw [readDecimal, hne, hdigits]
  simp [decimal, Nat.ofDigitChars_toDigits]

end ServiceDirectory.Text
