import Ember.Text.Joined
import Ember.Value.Builtin

/-!
# Evaluation errors

Everything that can go wrong in an evaluation, with what the message about it
needs.
-/

namespace Ember

/-- Why an evaluation has no value. -/
inductive EvalError where
  | unknownIdentifier (name : String)
  | typeMismatch (left : ValueType) (operator : BinaryOperator) (right : ValueType)
  | unknownUnaryOperator (operator : UnaryOperator) (operand : ValueType)
  | unknownBinaryOperator (left : ValueType) (operator : BinaryOperator) (right : ValueType)
  | divisionByZero
  | integerOverflow (left : Integer) (operator : BinaryOperator) (right : Integer)
  | negationOverflow (operand : Integer)
  | indexNotSupported (collection position : ValueType)
  | unusableKey (type : ValueType)
  | notAFunction (type : ValueType)
  | wrongArgumentCount (expected actual : Nat)
  | unacceptedArgument (builtin : Builtin) (got : ValueType)
  deriving DecidableEq, Repr

namespace EvalError

/-- The wording of an evaluation error. -/
def message : EvalError → String
  | .unknownIdentifier name => "identifier not found: " ++ name
  | .typeMismatch left operator right =>
    "type mismatch: " ++ left.name ++ " " ++ operator.text ++ " " ++ right.name
  | .unknownUnaryOperator operator operand =>
    "unknown operator: " ++ operator.text ++ operand.name
  | .unknownBinaryOperator left operator right =>
    "unknown operator: " ++ left.name ++ " " ++ operator.text ++ " " ++ right.name
  | .divisionByZero => "division by zero"
  | .integerOverflow left operator right =>
    "integer overflow: " ++ left.render ++ " " ++ operator.text ++ " " ++ right.render
  | .negationOverflow operand => "integer overflow: -(" ++ operand.render ++ ")"
  | .indexNotSupported collection position =>
    "index operator not supported: " ++ collection.name ++ "[" ++ position.name ++ "]"
  | .unusableKey type => "unusable as hash key: " ++ type.name
  | .notAFunction type => "not a function: " ++ type.name
  | .wrongArgumentCount expected actual =>
    "wrong number of arguments: expected " ++ toString expected ++ ", got " ++ toString actual
  | .unacceptedArgument builtin got =>
    "argument to `" ++ builtin.name ++ "` must be " ++
      Text.joined " or " (builtin.accepted.map ValueType.name) ++ ", got " ++ got.name

end EvalError

end Ember
