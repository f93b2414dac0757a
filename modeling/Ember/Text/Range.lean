/-!
# Ranges of code points

A property of characters that follows no formula is a table: closed ranges of
code points, in order.
-/

namespace Ember.Text

/-- Whether a code point lies in one of some ranges. -/
def inRanges (ranges : List (Nat × Nat)) (codePoint : Nat) : Bool :=
  ranges.any fun (low, high) => low ≤ codePoint && codePoint ≤ high

/-- A code point lies in some ranges if one of them holds it. -/
theorem inRanges_eq_true_iff {ranges : List (Nat × Nat)} {codePoint : Nat} :
    inRanges ranges codePoint = true ↔
      ∃ range ∈ ranges, range.1 ≤ codePoint ∧ codePoint ≤ range.2 := by
  simp [inRanges]

end Ember.Text
