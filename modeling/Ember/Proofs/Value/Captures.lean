import Ember.Proofs.Value.Parts
import Ember.Value.Operation

/-!
# What values capture

A function carries the number of the scope in which it was made, and arrays and hashes
carry the functions inside them, at any depth. A value is within some scopes if no function
in it was made in another one. Operations make no functions, so their results are within
whatever their operands are within.
-/

namespace Ember

namespace Value

/-- Some function in a value, at any depth, was made in this scope. -/
def Captures (value : Value) (scope : ScopeId) : Prop :=
  ∃ closure, .function closure ∈ value.parts ∧ closure.scope = scope

/-- All functions in a value, at any depth, were made in such scopes. -/
def Within (reach : ScopeId → Prop) (value : Value) : Prop :=
  ∀ scope, value.Captures scope → reach scope

/-- Something that holds of all functions in a value, at any depth. -/
def Each (property : Closure → Prop) (value : Value) : Prop :=
  ∀ closure, .function closure ∈ value.parts → property closure

section Each

variable {property : Closure → Prop}

/-- A value that has no parts and is no function has no functions in it. -/
theorem each_of_parts {value : Value} (alone : value.parts = [value])
    (noFunction : ∀ closure, value ≠ .function closure) : value.Each property := by
  intro closure member
  rw [alone, List.mem_singleton] at member
  exact absurd member.symm (noFunction closure)

@[simp] theorem each_integer (value : Integer) : (Value.integer value).Each property :=
  each_of_parts rfl nofun

@[simp] theorem each_boolean (value : Bool) : (Value.boolean value).Each property :=
  each_of_parts rfl nofun

@[simp] theorem each_string (content : String) : (Value.string content).Each property :=
  each_of_parts rfl nofun

@[simp] theorem each_null : Value.null.Each property :=
  each_of_parts rfl nofun

theorem each_function {closure : Closure} :
    (Value.function closure).Each property ↔ property closure := by
  constructor
  · intro each
    exact each closure (List.mem_singleton.mpr rfl)
  · intro holds other member
    cases List.mem_singleton.mp member
    exact holds

theorem each_array {elements : List Value} :
    (Value.array elements).Each property ↔ ∀ element ∈ elements, element.Each property := by
  constructor
  · intro each element inside closure member
    exact each closure (mem_parts_array.mpr (.inr ⟨element, inside, member⟩))
  · intro each closure member
    rcases mem_parts_array.mp member with impossible | ⟨element, inside, deeper⟩
    · cases impossible
    · exact each element inside closure deeper

theorem each_hash {entries : List (Key × Value)} :
    (Value.hash entries).Each property ↔ ∀ entry ∈ entries, entry.2.Each property := by
  constructor
  · intro each entry inside closure member
    exact each closure (mem_parts_hash.mpr (.inr ⟨entry, inside, .inr member⟩))
  · intro each closure member
    rcases mem_parts_hash.mp member with impossible | ⟨⟨key, value⟩, inside, isKey | deeper⟩
    · cases impossible
    · cases key <;> cases isKey
    · exact each (key, value) inside closure deeper

end Each

variable {reach more : ScopeId → Prop}

theorem within_iff {value : Value} :
    value.Within reach ↔ value.Each fun closure => reach closure.scope := by
  constructor
  · intro within closure member
    exact within _ ⟨closure, member, rfl⟩
  · rintro each scope ⟨closure, member, rfl⟩
    exact each closure member

theorem Within.mono {value : Value} (within : value.Within reach)
    (weaker : ∀ scope, reach scope → more scope) : value.Within more :=
  fun scope captures => weaker scope (within scope captures)

/-- A value that captures nothing has no functions in it. -/
theorem Within.each {value : Value} (within : value.Within fun _ => False)
    (property : Closure → Prop) : value.Each property :=
  fun closure member => (within _ ⟨closure, member, rfl⟩).elim

@[simp] theorem within_integer (value : Integer) : (Value.integer value).Within reach :=
  within_iff.mpr (each_integer value)

@[simp] theorem within_boolean (value : Bool) : (Value.boolean value).Within reach :=
  within_iff.mpr (each_boolean value)

@[simp] theorem within_string (content : String) : (Value.string content).Within reach :=
  within_iff.mpr (each_string content)

@[simp] theorem within_null : Value.null.Within reach :=
  within_iff.mpr each_null

@[simp] theorem within_function {closure : Closure} :
    (Value.function closure).Within reach ↔ reach closure.scope := by
  rw [within_iff, each_function]

@[simp] theorem within_array {elements : List Value} :
    (Value.array elements).Within reach ↔ ∀ element ∈ elements, element.Within reach := by
  simp only [within_iff, each_array]

@[simp] theorem within_hash {entries : List (Key × Value)} :
    (Value.hash entries).Within reach ↔ ∀ entry ∈ entries, entry.2.Within reach := by
  simp only [within_iff, each_hash]

end Value

section Operations

variable {reach : ScopeId → Prop} {property : Closure → Prop} {result : Value}

theorem within_exactly {left right : Integer} {operator : BinaryOperator} {number : Int}
    (applied : exactly left operator right number = .ok result) : result.Within reach := by
  unfold exactly at applied
  split at applied
  · cases applied
    exact Value.within_integer _
  · cases applied

theorem BinaryOperator.within_onIntegers {operator : BinaryOperator} {left right : Integer}
    (applied : operator.onIntegers left right = .ok result) : result.Within reach := by
  cases operator with
  | add | subtract | multiply => exact within_exactly applied
  | divide =>
      simp only [onIntegers] at applied
      split at applied
      · cases applied
      · exact within_exactly applied
  | less | greater | equal | notEqual =>
      cases applied
      exact Value.within_boolean _

theorem BinaryOperator.within_apply {operator : BinaryOperator} {left right : Value}
    (applied : operator.apply left right = .ok result) : result.Within reach := by
  unfold apply at applied
  split at applied
  · exact within_onIntegers applied
  · split at applied
    · cases applied
      exact Value.within_string _
    · cases applied
  · split at applied
    · cases applied
    · split at applied
      · cases applied
        exact Value.within_boolean _
      · cases applied
        exact Value.within_boolean _
      · cases applied

theorem UnaryOperator.within_apply {operator : UnaryOperator} {operand : Value}
    (applied : operator.apply operand = .ok result) : result.Within reach := by
  unfold apply at applied
  split at applied
  · cases applied
    exact Value.within_boolean _
  · split at applied
    · cases applied
      exact Value.within_integer _
    · cases applied
  · cases applied

/-- A value that stands for a key is found among the entries. -/
theorem Bindings.mem_of_value? {α β : Type} [DecidableEq α] {key : α} {value : β}
    {bindings : Bindings α β} (bound : value? key bindings = some value) :
    (key, value) ∈ bindings := by
  induction bindings with
  | nil => cases bound
  | cons pair rest ih =>
      rw [value?] at bound
      split at bound
      · next same =>
          cases bound
          cases same
          exact List.mem_cons_self
      · exact List.mem_cons_of_mem _ (ih bound)

/-- Nothing but a value that was there, or the new one, is there after a key was put. -/
theorem Bindings.forall_put {α β : Type} [DecidableEq α] {property : β → Prop} {key : α} {value : β}
    {bindings : Bindings α β} (each : ∀ pair ∈ bindings, property pair.2) (new : property value) :
    ∀ pair ∈ put key value bindings, property pair.2 := by
  induction bindings with
  | nil => simpa [put] using new
  | cons pair rest ih =>
      rw [List.forall_mem_cons] at each
      rw [put]
      split
      · exact List.forall_mem_cons.mpr ⟨new, each.2⟩
      · exact List.forall_mem_cons.mpr ⟨each.1, ih each.2⟩

/-- What is absent is null. -/
theorem Value.each_getD {found : Option Value} (each : ∀ value ∈ found, value.Each property) :
    (found.getD .null).Each property := by
  cases found with
  | none => exact each_null
  | some value => exact each value rfl

theorem Value.each_elementAt {collection position : Value} (each : collection.Each property)
    (applied : collection.elementAt position = .ok result) : result.Each property := by
  unfold elementAt at applied
  split at applied
  · rw [each_array] at each
    split at applied
    · cases applied
      exact each_null
    · cases applied
      exact each_getD fun value found => each value (List.mem_of_getElem? found)
  · rw [each_hash] at each
    split at applied
    · cases applied
      exact each_getD fun value found => each _ (Bindings.mem_of_value? found)
    · cases applied
  · cases applied

theorem Value.within_elementAt {collection position : Value} (within : collection.Within reach)
    (applied : collection.elementAt position = .ok result) : result.Within reach :=
  within_iff.mpr (each_elementAt (within_iff.mp within) applied)

theorem Builtin.each_onArguments {builtin : Builtin} {subject : Value} {others : List Value}
    (each : subject.Each property) (othersEach : ∀ other ∈ others, other.Each property)
    (applied : builtin.onArguments subject others = .ok result) : result.Each property := by
  unfold onArguments at applied
  split at applied
  · cases applied
    exact Value.each_integer _
  · cases applied
    exact Value.each_integer _
  · rw [Value.each_array] at each
    cases applied
    exact Value.each_getD fun value found => each value (List.mem_of_head? found)
  · rw [Value.each_array, List.forall_mem_cons] at each
    cases applied
    exact Value.each_array.mpr each.2
  · cases applied
    exact Value.each_null
  · rw [Value.each_array] at each
    cases applied
    exact Value.each_array.mpr (List.forall_mem_append.mpr ⟨each, othersEach⟩)
  · cases applied

theorem Builtin.each_apply {builtin : Builtin} {arguments : List Value}
    (each : ∀ argument ∈ arguments, argument.Each property)
    (applied : builtin.apply arguments = .ok result) : result.Each property := by
  unfold apply at applied
  split at applied
  · rw [List.forall_mem_cons] at each
    split at applied
    · exact each_onArguments each.1 each.2 applied
    · cases applied
  · cases applied

theorem Builtin.within_apply {builtin : Builtin} {arguments : List Value}
    (within : ∀ argument ∈ arguments, argument.Within reach)
    (applied : builtin.apply arguments = .ok result) : result.Within reach :=
  Value.within_iff.mpr
    (each_apply (fun argument member => Value.within_iff.mp (within argument member)) applied)

end Operations

end Ember
