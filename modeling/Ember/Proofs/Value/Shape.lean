import Mathlib.Data.List.Forall2
import Ember.Value.Operation

/-!
# Values of one shape

Values have the same shape if they are of one kind, with the same number, text or truth
value, with related elements, and with related values for every key. A relation that only
holds between values of one shape, whose parts it relates again, cannot be told from
sameness by taking values apart: indexing and the built-in functions give related results
for related arguments, and the same errors.
-/

namespace Ember

/-- Results of operations: related values, or one error. -/
inductive Agree {α β : Type} (relation : α → β → Prop) :
    Except EvalError α → Except EvalError β → Prop where
  | ok {left : α} {right : β} : relation left right → Agree relation (.ok left) (.ok right)
  | error (error : EvalError) : Agree relation (.error error) (.error error)

theorem Agree.mono {α β : Type} {relation weaker : α → β → Prop} {left : Except EvalError α}
    {right : Except EvalError β} (agree : Agree relation left right)
    (weakened : ∀ first second, relation first second → weaker first second) :
    Agree weaker left right := by
  cases agree with
  | ok related => exact .ok (weakened _ _ related)
  | error error => exact .error error

theorem optionRel_getElem? {α β : Type} {relation : α → β → Prop} {left : List α} {right : List β}
    (related : List.Forall₂ relation left right) (position : Nat) :
    Option.Rel relation left[position]? right[position]? := by
  induction related generalizing position with
  | nil => exact .none
  | cons first _ ih =>
      cases position with
      | zero => exact .some first
      | succ position => simpa using ih position

/-- Values of one kind with related parts. The entries of hashes may be in any order, and
functions may differ. -/
inductive SameShape (relation : Value → Value → Prop) : Value → Value → Prop where
  | integer (value : Integer) : SameShape relation (.integer value) (.integer value)
  | boolean (value : Bool) : SameShape relation (.boolean value) (.boolean value)
  | string (content : String) : SameShape relation (.string content) (.string content)
  | array {left right : List Value} :
      List.Forall₂ relation left right → SameShape relation (.array left) (.array right)
  | hash {left right : Bindings Key Value} :
      (∀ key, Option.Rel relation (Bindings.value? key left) (Bindings.value? key right)) →
        SameShape relation (.hash left) (.hash right)
  | function (left right : Closure) : SameShape relation (.function left) (.function right)
  | null : SameShape relation .null .null

namespace SameShape

variable {relation : Value → Value → Prop} {left right : Value}

theorem type_eq (same : SameShape relation left right) : left.type = right.type := by
  cases same <;> rfl

theorem isTruthy_eq (same : SameShape relation left right) : left.isTruthy = right.isTruthy := by
  cases same <;> rfl

/-- Values of one shape stand for one key, or are unusable for one reason. -/
theorem asKey_eq (same : SameShape relation left right) : left.asKey = right.asKey := by
  cases same <;> rfl

end SameShape

/-- A relation between values of one shape that holds between arrays as soon as it holds
between their elements. -/
structure Structural (relation : Value → Value → Prop) : Prop where
  shape : ∀ {left right}, relation left right → SameShape relation left right
  integer : ∀ value, relation (.integer value) (.integer value)
  array : ∀ {left right}, List.Forall₂ relation left right →
    relation (.array left) (.array right)
  null : relation .null .null

namespace Structural

variable {relation : Value → Value → Prop} (structural : Structural relation)
include structural

/-- What is not there is null in both. -/
theorem getD {left right : Option Value} (found : Option.Rel relation left right) :
    relation (left.getD .null) (right.getD .null) := by
  cases found with
  | none => exact structural.null
  | some related => exact related

theorem elementAt {left left' right right' : Value} (collections : relation left left')
    (positions : relation right right') :
    Agree relation (left.elementAt right) (left'.elementAt right') := by
  have samePosition := structural.shape positions
  cases structural.shape collections with
  | array elements =>
      cases samePosition with
      | integer position =>
          rw [Value.elementAt, Value.elementAt]
          split
          · exact .ok structural.null
          · exact .ok (structural.getD (optionRel_getElem? elements _))
      | _ => exact .error _
  | hash entries =>
      rw [Value.elementAt, Value.elementAt, samePosition.asKey_eq]
      cases right'.asKey with
      | ok key => exact .ok (structural.getD (entries key))
      | error error => exact .error error
  | _ => cases samePosition <;> exact .error _

theorem onArguments (builtin : Builtin) {subject subject' : Value} {others others' : List Value}
    (subjects : relation subject subject') (related : List.Forall₂ relation others others') :
    Agree relation (builtin.onArguments subject others)
      (builtin.onArguments subject' others') := by
  cases structural.shape subjects with
  | array elements =>
      cases builtin with
      | len =>
          rw [Builtin.onArguments, Builtin.onArguments, elements.length_eq]
          exact .ok (structural.integer _)
      | first =>
          rw [Builtin.onArguments, Builtin.onArguments, List.head?_eq_getElem?,
            List.head?_eq_getElem?]
          exact .ok (structural.getD (optionRel_getElem? elements 0))
      | rest =>
          cases elements with
          | nil => exact .ok structural.null
          | cons _ behind =>
              cases behind with
              | nil => exact .ok structural.null
              | cons second following => exact .ok (structural.array (.cons second following))
      | append => exact .ok (structural.array (List.rel_append elements related))
  | string content =>
      cases builtin with
      | len => exact .ok (structural.integer _)
      | _ => exact .error _
  | _ => cases builtin <;> exact .error _

theorem builtin (builtin : Builtin) {left right : List Value}
    (related : List.Forall₂ relation left right) :
    Agree relation (builtin.apply left) (builtin.apply right) := by
  have length := related.length_eq
  cases related with
  | nil => exact .error _
  | cons subjects others =>
      rw [Builtin.apply, Builtin.apply, length]
      split
      · exact structural.onArguments builtin subjects others
      · exact .error _

end Structural

/-- Which values of two runs stand for each other. Every operation of the language gives
results that do so for operands that do. -/
structure Matching where
  alike : Value → Value → Prop
  closure : Closure → Closure → Prop
  structural : Structural alike
  boolean : ∀ value, alike (.boolean value) (.boolean value)
  function : ∀ {left right}, alike (.function left) (.function right) ↔ closure left right
  noEntries : alike (.hash []) (.hash [])
  /-- Binding a key, as an entry of a hash literal does. -/
  put : ∀ {leftKey rightKey leftValue rightValue : Value} {left right : Bindings Key Value}
    {key : Key}, alike leftKey rightKey → leftKey.asKey = .ok key → alike leftValue rightValue →
      alike (.hash left) (.hash right) →
        alike (.hash (Bindings.put key leftValue left)) (.hash (Bindings.put key rightValue right))
  unary : ∀ (operator : UnaryOperator) {left right}, alike left right →
    Agree alike (operator.apply left) (operator.apply right)
  binary : ∀ (operator : BinaryOperator) {left left' right right'}, alike left left' →
    alike right right' → Agree alike (operator.apply left right) (operator.apply left' right')

end Ember
