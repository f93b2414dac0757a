import Ember.Value.Basic

/-!
# The parts of values

Induction over values, where the elements of an array and the values of a hash are
the parts of it that the induction speaks of, and everything that a value contains at
any depth.
-/

namespace Ember

/-- What passes from the elements of arrays and from the values of hashes to these
holds of every value. -/
@[elab_as_elim]
theorem Value.induct {P : Value → Prop} (integer : ∀ value, P (.integer value))
    (boolean : ∀ value, P (.boolean value)) (string : ∀ content, P (.string content))
    (array : ∀ elements, (∀ element ∈ elements, P element) → P (.array elements))
    (hash : ∀ entries, (∀ entry ∈ entries, P entry.2) → P (.hash entries))
    (function : ∀ closure, P (.function closure)) (null : P .null) (value : Value) : P value := by
  refine @Value.rec P (fun elements => ∀ element ∈ elements, P element)
    (fun entries => ∀ entry ∈ entries, P entry.2) (fun entry => P entry.2) integer boolean string
    array hash function null ?_ ?_ ?_ ?_ ?_ value
  · intro element member
    cases member
  · intro first rest holds others
    exact List.forall_mem_cons.mpr ⟨holds, others⟩
  · intro entry member
    cases member
  · intro first rest holds others
    exact List.forall_mem_cons.mpr ⟨holds, others⟩
  · intro key value holds
    exact holds

mutual

/-- Everything that a value contains: the value itself, the elements of arrays, and the
keys and values of hashes, at any depth. -/
def Value.parts : Value → List Value
  | .array elements => .array elements :: Value.partsEach elements
  | .hash entries => .hash entries :: Value.partsEntries entries
  | value => [value]
termination_by structural value => value

/-- Everything that some values contain. -/
def Value.partsEach : List Value → List Value
  | [] => []
  | value :: rest => value.parts ++ Value.partsEach rest
termination_by structural values => values

/-- Everything that some entries of a hash contain. -/
def Value.partsEntries : List (Key × Value) → List Value
  | [] => []
  | (key, value) :: rest => key.toValue :: (value.parts ++ Value.partsEntries rest)
termination_by structural entries => entries

end

@[simp] theorem Key.parts_toValue (key : Key) : key.toValue.parts = [key.toValue] := by
  cases key <;> rfl

namespace Value

variable {part : Value}

theorem mem_partsEach {values : List Value} :
    part ∈ partsEach values ↔ ∃ value ∈ values, part ∈ value.parts := by
  induction values with
  | nil => simp [partsEach]
  | cons value rest ih => simp [partsEach, ih]

theorem mem_partsEntries {entries : List (Key × Value)} :
    part ∈ partsEntries entries ↔
      ∃ entry ∈ entries, part = entry.1.toValue ∨ part ∈ entry.2.parts := by
  induction entries with
  | nil => simp [partsEntries]
  | cons entry rest ih => simp [partsEntries, ih, or_assoc]

theorem mem_parts_array {elements : List Value} :
    part ∈ (Value.array elements).parts ↔
      part = .array elements ∨ ∃ element ∈ elements, part ∈ element.parts := by
  change part ∈ .array elements :: partsEach elements ↔ _
  rw [List.mem_cons, mem_partsEach]

theorem mem_parts_hash {entries : List (Key × Value)} :
    part ∈ (Value.hash entries).parts ↔
      part = .hash entries ∨
        ∃ entry ∈ entries, part = entry.1.toValue ∨ part ∈ entry.2.parts := by
  change part ∈ .hash entries :: partsEntries entries ↔ _
  rw [List.mem_cons, mem_partsEntries]

/-- What holds of all parts of an array. -/
theorem forall_parts_array {elements : List Value} {property : Value → Prop} :
    (∀ part ∈ (Value.array elements).parts, property part) ↔
      property (.array elements) ∧ ∀ element ∈ elements, ∀ part ∈ element.parts, property part := by
  constructor
  · intro all
    refine ⟨all _ (mem_parts_array.mpr (.inl rfl)), ?_⟩
    intro element member part inside
    exact all part (mem_parts_array.mpr (.inr ⟨element, member, inside⟩))
  · rintro ⟨whole, each⟩ part inside
    rcases mem_parts_array.mp inside with rfl | ⟨element, member, inside⟩
    · exact whole
    · exact each element member part inside

/-- What holds of all parts of a hash. -/
theorem forall_parts_hash {entries : List (Key × Value)} {property : Value → Prop} :
    (∀ part ∈ (Value.hash entries).parts, property part) ↔
      property (.hash entries) ∧
        ∀ entry ∈ entries, property entry.1.toValue ∧ ∀ part ∈ entry.2.parts, property part := by
  constructor
  · intro all
    refine ⟨all _ (mem_parts_hash.mpr (.inl rfl)), ?_⟩
    intro entry member
    refine ⟨all _ (mem_parts_hash.mpr (.inr ⟨entry, member, .inl rfl⟩)), ?_⟩
    intro part inside
    exact all part (mem_parts_hash.mpr (.inr ⟨entry, member, .inr inside⟩))
  · rintro ⟨whole, each⟩ part inside
    rcases mem_parts_hash.mp inside with rfl | ⟨entry, member, rfl | inside⟩
    · exact whole
    · exact (each entry member).1
    · exact (each entry member).2 part inside

end Value

end Ember
