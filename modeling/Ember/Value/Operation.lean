import Ember.Value.Equality
import Ember.Value.Error

/-!
# Operations on values

The meaning of the operators, of indexing and of the built-in functions, on
values that are already there. Integer arithmetic is exact: the result is the
one of the unbounded integers, or an overflow.
-/

namespace Ember

/-- An exact result of integer arithmetic, as long as it is in the range. -/
def exactly (left : Integer) (operator : BinaryOperator) (right : Integer) (result : Int) :
    Except EvalError Value :=
  match Integer.ofInt? result with
  | some value => .ok (.integer value)
  | none => .error (.integerOverflow left operator right)

/-- An operator between two integers. Division goes toward zero. -/
def BinaryOperator.onIntegers (operator : BinaryOperator) (left right : Integer) :
    Except EvalError Value :=
  match operator with
  | .add => exactly left .add right (left.toInt + right.toInt)
  | .subtract => exactly left .subtract right (left.toInt - right.toInt)
  | .multiply => exactly left .multiply right (left.toInt * right.toInt)
  | .divide =>
    if right.toInt = 0 then .error .divisionByZero
    else exactly left .divide right (left.toInt.tdiv right.toInt)
  | .less => .ok (.boolean (left.toInt < right.toInt))
  | .greater => .ok (.boolean (left.toInt > right.toInt))
  | .equal => .ok (.boolean (left.toInt == right.toInt))
  | .notEqual => .ok (.boolean (left.toInt != right.toInt))

/-- An operator between two values. Strings can be joined but not compared;
values of any other one type can be compared for equality. -/
def BinaryOperator.apply (operator : BinaryOperator) (left right : Value) :
    Except EvalError Value :=
  match left, right with
  | .integer left, .integer right => operator.onIntegers left right
  | .string left, .string right =>
    if operator = .add then .ok (.string (left ++ right))
    else .error (.unknownBinaryOperator .string operator .string)
  | left, right =>
    if left.type ≠ right.type then
      .error (.typeMismatch left.type operator right.type)
    else
      match operator with
      | .equal => .ok (.boolean (left.equals right))
      | .notEqual => .ok (.boolean (!left.equals right))
      | _ => .error (.unknownBinaryOperator left.type operator right.type)

/-- An operator in front of a value. -/
def UnaryOperator.apply (operator : UnaryOperator) (operand : Value) : Except EvalError Value :=
  match operator, operand with
  | .not, operand => .ok (.boolean !operand.isTruthy)
  | .negate, .integer value =>
    match Integer.ofInt? (-value.toInt) with
    | some negated => .ok (.integer negated)
    | none => .error (.negationOverflow value)
  | .negate, operand => .error (.unknownUnaryOperator .negate operand.type)

namespace Value

/-- The key that a value stands for, or the error that it can be none. -/
def asKey (value : Value) : Except EvalError Key :=
  match value.key? with
  | some key => .ok key
  | none => .error (.unusableKey value.type)

/-- The element of an array, or the value of a key. A position or a key that is
not there gives null. -/
def elementAt (collection position : Value) : Except EvalError Value :=
  match collection, position with
  | .array elements, .integer position =>
    if position.toInt < 0 then .ok .null
    else .ok (elements[position.toInt.toNat]?.getD .null)
  | .hash entries, position =>
    match position.asKey with
    | .ok key => .ok ((Bindings.value? key entries).getD .null)
    | .error error => .error error
  | collection, position => .error (.indexNotSupported collection.type position.type)

end Value

/-- The integer nearest to a count. -/
def Integer.ofCount (count : Nat) : Integer :=
  if range : (count : Int) < integerBound then
    ⟨count, by simp only [integerBound]; omega, range⟩
  else
    ⟨integerBound - 1, by decide, by decide⟩

namespace Builtin

/-- A built-in function on the right number of arguments: counts the characters
of a string or the elements of an array; gives the first element or null; gives
the elements after the first, or null if there are none; adds an element at the
end. -/
def onArguments (builtin : Builtin) (subject : Value) (others : List Value) :
    Except EvalError Value :=
  match builtin, subject with
  | .len, .string content => .ok (.integer (.ofCount content.length))
  | .len, .array elements => .ok (.integer (.ofCount elements.length))
  | .first, .array elements => .ok (elements.head?.getD .null)
  | .rest, .array (_ :: second :: others) => .ok (.array (second :: others))
  | .rest, .array _ => .ok .null
  | .append, .array elements => .ok (.array (elements ++ others))
  | builtin, subject => .error (.unacceptedArgument builtin subject.type)

/-- Calls a built-in function. The number of arguments is checked before their
types. -/
def apply (builtin : Builtin) (arguments : List Value) : Except EvalError Value :=
  match arguments with
  | subject :: others =>
    if arguments.length = builtin.arity then
      builtin.onArguments subject others
    else
      .error (.wrongArgumentCount builtin.arity arguments.length)
  | [] => .error (.wrongArgumentCount builtin.arity 0)

/-- A description of a built-in function for diagnosis. -/
def describe (builtin : Builtin) : String :=
  "BuiltinFunction \x7b name: \"" ++ builtin.name ++ "\" \x7d"

end Builtin

end Ember
