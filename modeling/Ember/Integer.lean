/-!
# Integers of the language

An integer is a whole number that fits in 64 bits with a sign. Arithmetic is
done on unbounded integers and the result is then brought back into the range,
so a result outside the range is an absent one and nothing ever wraps around.
-/

namespace Ember

/-- One more than the largest integer of the language, `2 ^ 63`. -/
def integerBound : Int := 9223372036854775808

/-- A whole number from `-2 ^ 63` to `2 ^ 63 - 1`. -/
structure Integer where
  /-- The number itself. -/
  toInt : Int
  lower : -integerBound ≤ toInt
  upper : toInt < integerBound
  deriving DecidableEq, Repr

namespace Integer

@[ext] theorem ext {left right : Integer} (equal : left.toInt = right.toInt) : left = right := by
  cases left; cases right; simpa using equal

/-- The integer of that value, if it is in the range. -/
def ofInt? (value : Int) : Option Integer :=
  if range : -integerBound ≤ value ∧ value < integerBound then
    some ⟨value, range.1, range.2⟩
  else
    none

theorem ofInt?_eq_some_iff {value : Int} {integer : Integer} :
    ofInt? value = some integer ↔ integer.toInt = value := by
  unfold ofInt?
  split
  · simp [Integer.ext_iff, eq_comm]
  · next outside =>
      simp only [reduceCtorEq, false_iff]
      rintro rfl
      exact outside ⟨integer.lower, integer.upper⟩

@[simp] theorem ofInt?_toInt (integer : Integer) : ofInt? integer.toInt = some integer :=
  ofInt?_eq_some_iff.mpr rfl

/-- The integer zero. -/
def zero : Integer := ⟨0, by decide, by decide⟩

/-- The integer that a numeral denotes: decimal digits, with leading zeros
allowed, for a number in the range. -/
def ofDigits? (digits : String) : Option Integer :=
  if fits : Nat.ofDigitChars 10 digits.toList 0 < integerBound.toNat then
    some ⟨(Nat.ofDigitChars 10 digits.toList 0 : Nat), by simp only [integerBound]; omega,
      by simp only [integerBound] at fits ⊢; omega⟩
  else
    none

theorem ofDigits?_eq_some_iff {digits : String} {integer : Integer} :
    ofDigits? digits = some integer ↔
      integer.toInt = (Nat.ofDigitChars 10 digits.toList 0 : Nat) := by
  unfold ofDigits?
  split
  · simp [Integer.ext_iff, eq_comm]
  · next outside =>
      simp only [reduceCtorEq, false_iff]
      intro equal
      have upper := integer.upper
      rw [equal] at upper
      simp only [integerBound] at outside upper
      omega

/-- The decimal text of an integer, with a minus sign if it is negative. -/
def render (integer : Integer) : String :=
  toString integer.toInt

/-- Reading back the decimal text of a number that is not negative gives that
number. -/
theorem ofDigits?_render {integer : Integer} (nonnegative : 0 ≤ integer.toInt) :
    ofDigits? integer.render = some integer := by
  rw [ofDigits?_eq_some_iff]
  obtain ⟨value, lower, upper⟩ := integer
  obtain ⟨magnitude, rfl⟩ := Int.eq_ofNat_of_zero_le nonnegative
  have text : (toString (magnitude : Int)) = magnitude.repr := rfl
  simp [render, text]

end Integer

end Ember
