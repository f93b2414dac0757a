import Ember.Text.Numeral
import Ember.Text.Pattern.Reading

/-!
# Conditions on fields

Lines of the log and activities have fields, each with a name and a value. A
condition asks for a field of a certain name, and it may ask for a value, too:
for a number, or for a text that fits a pattern.
-/

namespace Ember

/-- A value that a field has to have. -/
inductive FieldValue where
  | number (value : Nat)
  /-- Anything that is no natural number, as it is written. -/
  | other (text : String)
  deriving DecidableEq, Repr

/-- The value that a text stands for. Numerals of the same number are the same. -/
def FieldValue.ofText (text : String) : FieldValue :=
  match Text.numeral? text.toList with
  | some value => .number value
  | none => .other text

/-- A field that has to be there, and the value it has to have, if that
matters. -/
structure Condition where
  field : String
  value : Option FieldValue
  deriving DecidableEq, Repr

namespace Condition

/-- What is wrong with a text as a value, if anything is. Every number is one, and
every pattern. -/
def valueFault? (text : String) : Option Text.Pattern.Fault :=
  if Text.isDecimal text.toList then none else Text.Pattern.fault? text.toList

/-- Reads the name of a field, and a value if there is a sign of equality. What
stands behind a second one does not count. -/
def ofText (text : String) : Except Text.Pattern.Fault Condition :=
  match text.splitOn "=" with
  | field :: value :: _ =>
    match valueFault? value with
    | none => .ok ⟨field, some (.ofText value)⟩
    | some fault => .error fault
  | fields => .ok ⟨String.join fields, none⟩

/-- Whether some fields have the one that the condition asks for. -/
def isAbout (condition : Condition) (fields : List (String × Nat)) : Bool :=
  (fields.lookup condition.field).isSome

/-- Whether a number is the value that the condition asks for. A pattern asks for
a text, and no number fits it. -/
def admits (condition : Condition) (number : Nat) : Bool :=
  condition.value.all fun value => value = .number number

/-- Whether some fields have the one that the condition asks for, with its
value. -/
def holds (condition : Condition) (fields : List (String × Nat)) : Bool :=
  (fields.lookup condition.field).any condition.admits

/-- A condition that holds is about a field that is there. -/
theorem isAbout_of_holds {condition : Condition} {fields : List (String × Nat)}
    (holds : condition.holds fields = true) : condition.isAbout fields = true := by
  rw [Condition.holds] at holds
  rw [isAbout]
  cases lookup : fields.lookup condition.field with
  | none => simp [lookup] at holds
  | some number => rfl

end Condition

end Ember
