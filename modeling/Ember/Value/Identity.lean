import Ember.Value.Basic

/-!
# Identity of values

Values as data are compared part by part, entries of hashes in their order. This
decides whether two values are one and the same piece of data; the equality of
the language is coarser and does not look at the order of entries.
-/

namespace Ember

mutual

/-- Whether two values are the same data. -/
def Value.same : Value → Value → Bool
  | .integer left, .integer right => left == right
  | .boolean left, .boolean right => left == right
  | .string left, .string right => left == right
  | .array left, .array right => Value.sameAll left right
  | .hash left, .hash right => Value.sameEntries left right
  | .function left, .function right => left == right
  | .null, .null => true
  | _, _ => false
termination_by structural left => left

/-- Whether two lists hold the same values. -/
def Value.sameAll : List Value → List Value → Bool
  | [], [] => true
  | left :: leftRest, right :: rightRest => left.same right && Value.sameAll leftRest rightRest
  | _, _ => false
termination_by structural left => left

/-- Whether two lists hold the same entries. -/
def Value.sameEntries : List (Key × Value) → List (Key × Value) → Bool
  | [], [] => true
  | (leftKey, left) :: leftRest, (rightKey, right) :: rightRest =>
    leftKey == rightKey && left.same right && Value.sameEntries leftRest rightRest
  | _, _ => false
termination_by structural left => left

end

mutual

theorem Value.same_iff (left right : Value) : left.same right = true ↔ left = right := by
  cases left <;> cases right <;>
    simp [Value.same, Value.sameAll_iff, Value.sameEntries_iff]
termination_by structural left

theorem Value.sameAll_iff (left right : List Value) :
    Value.sameAll left right = true ↔ left = right := by
  cases left <;> cases right <;> simp [Value.sameAll, Value.same_iff, Value.sameAll_iff]
termination_by structural left

theorem Value.sameEntries_iff (left right : List (Key × Value)) :
    Value.sameEntries left right = true ↔ left = right := by
  match left, right with
  | [], [] => simp [Value.sameEntries]
  | [], _ :: _ => simp [Value.sameEntries]
  | _ :: _, [] => simp [Value.sameEntries]
  | (leftKey, leftValue) :: leftRest, (rightKey, rightValue) :: rightRest =>
      simp [Value.sameEntries, Value.same_iff, Value.sameEntries_iff]
termination_by structural left

end

instance : DecidableEq Value := fun left right =>
  decidable_of_iff _ (Value.same_iff left right)

end Ember
