/-!
# Numerals

Texts that are read as numbers: numerals of natural numbers, which may have a
sign of addition and zeros in front, and decimal numbers.
-/

namespace Ember.Text

/-- The number that a numeral stands for. -/
def numeral? (text : List Char) : Option Nat :=
  let digits := if text.head? = some '+' then text.tail else text
  if !digits.isEmpty && digits.all Char.isDigit then
    some (Nat.ofDigitChars 10 digits 0)
  else
    none

/-- A text of digits stands for the number that they write. -/
theorem numeral?_digits {digits : List Char} (nonempty : digits ≠ [])
    (every : ∀ char ∈ digits, char.isDigit = true) :
    numeral? digits = some (Nat.ofDigitChars 10 digits 0) := by
  cases digits with
  | nil => exact absurd rfl nonempty
  | cons first rest =>
    have unsigned : first ≠ '+' := by
      intro equal
      have digit := every first (List.mem_cons_self ..)
      rw [equal] at digit
      exact absurd digit (by decide)
    have digits := List.all_eq_true.mpr every
    simp [numeral?, unsigned, digits]

/-- A text without a sign in front. -/
def withoutSign (text : List Char) : List Char :=
  if text.head? = some '+' || text.head? = some '-' then text.tail else text

/-- Whether a text is the exponent of a decimal number, with its mark, or
nothing. -/
def isExponent : List Char → Bool
  | [] => true
  | mark :: rest =>
    mark.toLower = 'e' && !(withoutSign rest).isEmpty && (withoutSign rest).all Char.isDigit

/-- Whether a text is a decimal number: a sign that may be missing, and then
infinity, no number, or digits with a point and an exponent that may be
missing. -/
def isDecimal (text : List Char) : Bool :=
  let unsigned := withoutSign text
  let whole := unsigned.takeWhile Char.isDigit
  let afterWhole := unsigned.dropWhile Char.isDigit
  let fraction := if afterWhole.head? = some '.' then afterWhole.tail else []
  let afterFraction :=
    if afterWhole.head? = some '.' then fraction.dropWhile Char.isDigit else afterWhole
  ["inf", "infinity", "nan"].contains (String.ofList unsigned).toLower ||
    (!(whole ++ fraction.takeWhile Char.isDigit).isEmpty && isExponent afterFraction)

end Ember.Text
