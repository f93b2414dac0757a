import Ember.Value.Basic

/-!
# Equality of values

Arrays are equal element by element and hashes as finite maps, whatever the order
of their entries. Two functions are equal when they were made from one literal in
one scope. Values of different types are not equal.
-/

namespace Ember

mutual

/-- Whether two values are equal. -/
def Value.equals : Value → Value → Bool
  | .integer left, .integer right => left == right
  | .boolean left, .boolean right => left == right
  | .string left, .string right => left == right
  | .array left, .array right => Value.allEqual left right
  | .hash left, .hash right =>
    left.length == right.length && Value.entriesAgree left right
  | .function left, .function right => left == right
  | .null, .null => true
  | _, _ => false
termination_by structural left => left

/-- Whether two lists have the same length and equal elements. -/
def Value.allEqual : List Value → List Value → Bool
  | [], [] => true
  | left :: leftRest, right :: rightRest =>
    left.equals right && Value.allEqual leftRest rightRest
  | _, _ => false
termination_by structural left => left

/-- Whether all entries on the left have an equal value for their key on the
right. -/
def Value.entriesAgree : List (Key × Value) → List (Key × Value) → Bool
  | [], _ => true
  | (key, value) :: rest, right =>
    (match Bindings.value? key right with
      | some other => value.equals other
      | none => false) && Value.entriesAgree rest right
termination_by structural left => left

end

end Ember
