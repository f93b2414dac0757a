import Ember.Bindings
import Ember.Syntax.Equality

/-!
# Values

What expressions evaluate to. Values are plain data: a function refers to the
scope it was made in by the number of that scope, and to the literal it was made
from by the place of that literal.
-/

namespace Ember

/-- The number of a scope in a store. -/
abbrev ScopeId := Nat

/-- The place of a node: which parsed program it belongs to, and the way to it
from the root of that program, the last turn first. -/
structure Site where
  program : Nat
  path : List Nat
  deriving DecidableEq, Repr

namespace Site

/-- The place of the statements of a program. -/
def root (program : Nat) : Site := ⟨program, []⟩

/-- The place of a part of the node at a place. -/
def child (site : Site) (position : Nat) : Site :=
  { site with path := position :: site.path }

end Site

/-- A function literal together with the scope in which it was evaluated. Two
functions are the same when they come from one literal, at one place, and from
one scope, whatever the scope holds by now. -/
structure Closure where
  /-- The place of the literal. -/
  site : Site
  /-- The scope that calls of the function are enclosed in. -/
  scope : ScopeId
  parameters : List String
  body : Block
  deriving DecidableEq, Repr

/-- The values that can be keys of a hash. -/
inductive Key where
  | integer (value : Integer)
  | boolean (value : Bool)
  | string (content : String)
  deriving DecidableEq, Repr

/-- Values. -/
inductive Value where
  | integer (value : Integer)
  | boolean (value : Bool)
  | string (content : String)
  | array (elements : List Value)
  /-- A finite map from keys to values; the order of the pairs has no meaning. The value that
  was given as the key of a pair is not kept beside its key, for the key determines it. -/
  | hash (entries : List (Key × Value))
  | function (closure : Closure)
  | null
  deriving Repr

/-- The types of values. -/
inductive ValueType where
  | integer
  | boolean
  | string
  | array
  | hash
  | function
  | null
  deriving DecidableEq, Repr

namespace ValueType

/-- The name of a type. -/
def name : ValueType → String
  | .integer => "INTEGER"
  | .boolean => "BOOLEAN"
  | .string => "STRING"
  | .array => "ARRAY"
  | .hash => "HASH"
  | .function => "FUNCTION"
  | .null => "NULL"

end ValueType

namespace Value

/-- The type of a value. -/
def type : Value → ValueType
  | .integer _ => .integer
  | .boolean _ => .boolean
  | .string _ => .string
  | .array _ => .array
  | .hash _ => .hash
  | .function _ => .function
  | .null => .null

/-- Zero, false and null do not hold as conditions; everything else does. -/
def isTruthy : Value → Bool
  | .integer value => value.toInt != 0
  | .boolean value => value
  | .null => false
  | _ => true

/-- The key that a value stands for, if it can be one. -/
def key? : Value → Option Key
  | .integer value => some (.integer value)
  | .boolean value => some (.boolean value)
  | .string content => some (.string content)
  | _ => none

end Value

/-- The value of a key. -/
def Key.toValue : Key → Value
  | .integer value => .integer value
  | .boolean value => .boolean value
  | .string content => .string content

@[simp] theorem Key.key?_toValue (key : Key) : key.toValue.key? = some key := by
  cases key <;> rfl

/-- A value that can be a key is the value of that key. -/
theorem Value.key?_eq_some_iff {value : Value} {key : Key} :
    value.key? = some key ↔ value = key.toValue := by
  constructor
  · intro isKey
    cases value <;> simp only [Value.key?, Option.some.injEq, reduceCtorEq] at isKey <;>
      subst isKey <;> rfl
  · rintro rfl
    exact Key.key?_toValue key

end Ember
