import Ember.Value.Basic
import Ember.Syntax.Printer
import Ember.Text.Quoted
import Ember.Text.Sorted

/-!
# Printed values

The text of a value. The entries of a hash are ordered by their texts, so that
equal hashes are printed alike.
-/

namespace Ember

open Text (joined quoted sorted)

/-- The text of a key. -/
def Key.render : Key → String
  | .integer value => value.render
  | .boolean value => renderBool value
  | .string content => "\"" ++ content ++ "\""

/-- The text of a function: the literal it was made from. -/
def Closure.render (closure : Closure) : String :=
  (Expr.function closure.parameters closure.body).render

mutual

/-- The text of a value. -/
def Value.render : Value → String
  | .integer value => value.render
  | .boolean value => renderBool value
  | .string content => "\"" ++ content ++ "\""
  | .array elements => "[" ++ joined ", " (Value.renderAll elements) ++ "]"
  | .hash entries => inBraces (joined ", " (sorted (Value.renderEntries entries)))
  | .function closure => closure.render
  | .null => "null"
termination_by structural value => value

/-- The texts of some values, in order. -/
def Value.renderAll : List Value → List String
  | [] => []
  | value :: rest => value.render :: Value.renderAll rest
termination_by structural values => values

/-- The texts of the entries of a hash, in order. -/
def Value.renderEntries : List (Key × Value) → List String
  | [] => []
  | (key, value) :: rest => (key.render ++ ": " ++ value.render) :: Value.renderEntries rest
termination_by structural entries => entries

end

@[simp] theorem Value.renderAll_eq_map (values : List Value) :
    Value.renderAll values = values.map Value.render := by
  induction values with
  | nil => rfl
  | cons value rest ih => simp [Value.renderAll, ih]

@[simp] theorem Value.renderEntries_eq_map (entries : List (Key × Value)) :
    Value.renderEntries entries =
      entries.map fun (key, value) => key.render ++ ": " ++ value.render := by
  induction entries with
  | nil => rfl
  | cons entry rest ih => simp [Value.renderEntries, ih]

/-- A description of a function for diagnosis: its parameters, and its body as a
quoted text. -/
def Closure.describe (closure : Closure) : String :=
  let parameters := closure.parameters.map fun name =>
    "Identifier \x7b name: " ++ quoted name ++ " \x7d"
  "Function \x7b parameters: [" ++ joined ", " parameters ++ "], body: " ++
    quoted (Block.render closure.body) ++ " \x7d"

end Ember
