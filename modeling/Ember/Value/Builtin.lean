import Ember.Value.Basic

/-!
# Built-in functions

The functions that every program can call without defining them: their names,
and what arguments they take. They are no values; a program can only call them.
-/

namespace Ember

/-- The built-in functions. -/
inductive Builtin where
  | len
  | first
  | rest
  | append
  deriving DecidableEq, Repr

namespace Builtin

/-- The name by which a built-in function is called. -/
def name : Builtin → String
  | .len => "len"
  | .first => "first"
  | .rest => "rest"
  | .append => "append"

/-- All built-in functions. -/
def all : List Builtin :=
  [.len, .first, .rest, .append]

/-- The built-in function of that name, if there is one. -/
def ofName? (name : String) : Option Builtin :=
  all.find? fun builtin => builtin.name == name

/-- The number of arguments of a built-in function. -/
def arity : Builtin → Nat
  | .len | .first | .rest => 1
  | .append => 2

/-- The types that a built-in function takes as its first argument. -/
def accepted : Builtin → List ValueType
  | .len => [.string, .array]
  | .first | .rest | .append => [.array]

end Builtin

end Ember
