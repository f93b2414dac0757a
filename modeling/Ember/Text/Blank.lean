/-!
# Blank characters

The characters that may stand between two tokens: those with the Unicode
property `White_Space`. Line ends are among them, and so are the wide and the
unbreakable spaces outside ASCII.
-/

namespace Ember.Text

/-- The `White_Space` property, as closed ranges of code points. -/
def blankRanges : List (Nat × Nat) :=
  [(0x9, 0xD), (0x20, 0x20), (0x85, 0x85), (0xA0, 0xA0), (0x1680, 0x1680),
   (0x2000, 0x200A), (0x2028, 0x2029), (0x202F, 0x202F), (0x205F, 0x205F),
   (0x3000, 0x3000)]

/-- Whether a character separates tokens without being part of one. -/
def isBlank (char : Char) : Bool :=
  blankRanges.any fun (low, high) => low ≤ char.toNat && char.toNat ≤ high

/-- Every character of the ASCII class of white space is blank. -/
theorem isBlank_of_isWhitespace {char : Char} (white : char.isWhitespace = true) :
    isBlank char = true := by
  simp only [Char.isWhitespace, Bool.or_eq_true, decide_eq_true_eq] at white
  rcases white with ((rfl | rfl) | rfl) | rfl <;> decide

/-- Characters without the blanks before the first and behind the last one that
is not blank. -/
def trimBlanks (chars : List Char) : List Char :=
  ((chars.dropWhile isBlank).reverse.dropWhile isBlank).reverse

/-- A text of blanks only. -/
def isBlankText (text : String) : Bool :=
  text.toList.all isBlank

end Ember.Text
