import Ember.Proofs.Value.Parts
import Ember.Proofs.Value.Shape

/-!
# Values that are alike

Two runs that do the same need not make the very same functions: the scopes and the
places of literals may have other numbers. A likeness says which functions stand for
each other, and which texts there are in both runs. Values of one shape are alike if
their functions are. Operations on values that are alike give results that are alike,
and the same errors.

The entries of a hash that was made in a run have different keys. That is part of the
likeness, too, so a likeness of a run to itself is an invariant of the run.
-/

namespace Ember

/-- Which functions of two runs stand for each other, and which texts there are. -/
structure Likeness where
  closure : Closure → Closure → Prop
  text : String → Prop
  /-- What is one function in one run is one function in the other. -/
  oneToOne : ∀ {first second : Closure} {left right : Closure},
    closure first left → closure second right → (first = second ↔ left = right)
  append : ∀ {left right : String}, text left → text right → text (left ++ right)

/-- The texts among the keys are such texts. -/
def Likeness.key (likeness : Likeness) : Key → Prop
  | .string content => likeness.text content
  | .integer _ | .boolean _ => True

mutual

/-- Values of one shape, with functions that stand for each other. -/
inductive Alike (likeness : Likeness) : Value → Value → Prop where
  | integer (value : Integer) : Alike likeness (.integer value) (.integer value)
  | boolean (value : Bool) : Alike likeness (.boolean value) (.boolean value)
  | string {content : String} :
      likeness.text content → Alike likeness (.string content) (.string content)
  | array {left right : List Value} :
      List.Forall₂ (Alike likeness) left right → Alike likeness (.array left) (.array right)
  | hash {left right : Bindings Key Value} :
      (Bindings.keys left).Nodup → List.Forall₂ (AlikeEntry likeness) left right →
        Alike likeness (.hash left) (.hash right)
  | function {left right : Closure} :
      likeness.closure left right → Alike likeness (.function left) (.function right)
  | null : Alike likeness .null .null

/-- Entries with the same key and with values that are alike. -/
inductive AlikeEntry (likeness : Likeness) : Key × Value → Key × Value → Prop where
  | entry {key : Key} {left right : Value} :
      likeness.key key → Alike likeness left right → AlikeEntry likeness (key, left) (key, right)

end

variable {likeness : Likeness}

namespace Alike

variable {left right : Value}

theorem type_eq (alike : Alike likeness left right) : left.type = right.type := by
  cases alike <;> rfl

theorem isTruthy_eq (alike : Alike likeness left right) : left.isTruthy = right.isTruthy := by
  cases alike <;> rfl

theorem ofKey {key : Key} (usual : likeness.key key) :
    Alike likeness key.toValue key.toValue := by
  cases key with
  | integer value => exact .integer value
  | boolean value => exact .boolean value
  | string content => exact .string usual

/-- Values that are alike stand for one key. -/
theorem asKey (alike : Alike likeness left right) :
    Agree (fun leftKey rightKey => leftKey = rightKey ∧ likeness.key leftKey)
      left.asKey right.asKey := by
  cases alike with
  | integer value => exact .ok ⟨rfl, trivial⟩
  | boolean value => exact .ok ⟨rfl, trivial⟩
  | string usual => exact .ok ⟨rfl, usual⟩
  | array _ | hash _ _ | function _ | null => exact .error _

end Alike

section Bindings

variable {α β γ : Type} [DecidableEq α] {pairs : α × β → α × γ → Prop} {left : Bindings α β}
  {right : Bindings α γ}

/-- Lists of pairs with the same keys hold related values for every key. -/
theorem Bindings.optionRel_value? {relation : β → γ → Prop} (related : List.Forall₂ pairs left right)
    (each : ∀ first second, pairs first second →
      first.1 = second.1 ∧ relation first.2 second.2) (key : α) :
    Option.Rel relation (value? key left) (value? key right) := by
  induction related with
  | nil => exact .none
  | @cons first second _ _ pair _ ih =>
      obtain ⟨same, values⟩ := each first second pair
      rw [value?, value?, ← same]
      split
      · exact .some values
      · exact ih

theorem Bindings.forall₂_put (related : List.Forall₂ pairs left right)
    (keyed : ∀ first second, pairs first second → first.1 = second.1) {key : α} {leftValue : β}
    {rightValue : γ} (pair : pairs (key, leftValue) (key, rightValue)) :
    List.Forall₂ pairs (put key leftValue left) (put key rightValue right) := by
  induction related with
  | nil => exact .cons pair .nil
  | @cons first second _ _ old others ih =>
      rcases first with ⟨bound, leftOld⟩
      rcases second with ⟨_, rightOld⟩
      cases keyed _ _ old
      rw [put, put]
      split
      · exact .cons pair others
      · exact .cons old ih

/-- Putting a key leaves the keys different from each other. -/
theorem Bindings.nodup_keys_put {bindings : Bindings α β}
    (different : (keys bindings).Nodup) (key : α) (value : β) :
    (keys (put key value bindings)).Nodup := by
  rw [keys_put]
  split
  · exact different
  · next fresh =>
      have apart : ∀ bound ∈ keys bindings, bound ≠ key := by
        rintro bound member rfl
        exact fresh member
      simpa [List.nodup_append, different] using apart

end Bindings

namespace AlikeEntry

theorem alike {left right : Key × Value} (entry : AlikeEntry likeness left right) :
    left.1 = right.1 ∧ Alike likeness left.2 right.2 := by
  cases entry with
  | entry _ alike => exact ⟨rfl, alike⟩

theorem value? {left right : Bindings Key Value}
    (entries : List.Forall₂ (AlikeEntry likeness) left right) (key : Key) :
    Option.Rel (Alike likeness) (Bindings.value? key left) (Bindings.value? key right) :=
  Bindings.optionRel_value? entries (fun _ _ entry => entry.alike) key

end AlikeEntry

theorem exists_of_forall₂ {α β : Type} {relation : α → β → Prop} {left : List α} {right : List β}
    (related : List.Forall₂ relation left right) {first : α} (member : first ∈ left) :
    ∃ second, relation first second := by
  induction related with
  | nil => cases member
  | cons pair _ ih =>
      rcases List.mem_cons.mp member with rfl | inside
      · exact ⟨_, pair⟩
      · exact ih inside

/-- Every part of a value has a part that is like it. -/
theorem Alike.exists_part {left right part : Value} (alike : Alike likeness left right)
    (member : part ∈ left.parts) : ∃ other, Alike likeness part other := by
  induction left using Value.induct generalizing right with
  | integer value | boolean value | string content | null | function closure =>
      cases List.mem_singleton.mp member
      exact ⟨right, alike⟩
  | array elements ih =>
      rcases Value.mem_parts_array.mp member with rfl | ⟨element, inside, member⟩
      · exact ⟨right, alike⟩
      · cases alike with
        | array elementsAlike =>
            obtain ⟨_, elementAlike⟩ := exists_of_forall₂ elementsAlike inside
            exact ih element inside elementAlike member
  | hash entries ih =>
      rcases Value.mem_parts_hash.mp member with rfl | ⟨entry, inside, key⟩
      · exact ⟨right, alike⟩
      · cases alike with
        | hash _ entriesAlike =>
            obtain ⟨_, entryAlike⟩ := exists_of_forall₂ entriesAlike inside
            cases entryAlike with
            | entry usual valueAlike =>
                rcases key with rfl | member
                · exact ⟨_, .ofKey usual⟩
                · exact ih _ inside valueAlike member

section Equality

/-- Whether lists are equal element by element is seen alike, if it is of the elements. -/
theorem allEqual_eq {left left' right right' : List Value}
    (leftAlike : List.Forall₂ (Alike likeness) left left')
    (rightAlike : List.Forall₂ (Alike likeness) right right')
    (each : ∀ first ∈ left, ∀ first' second second', Alike likeness first first' →
      Alike likeness second second' → first.equals second = first'.equals second') :
    Value.allEqual left right = Value.allEqual left' right' := by
  induction leftAlike generalizing right right' with
  | nil => cases rightAlike <;> rfl
  | cons firstAlike _ ih =>
      rw [List.forall_mem_cons] at each
      cases rightAlike with
      | nil => rfl
      | cons secondAlike othersAlike =>
          rw [Value.allEqual, Value.allEqual, each.1 _ _ _ firstAlike secondAlike,
            ih othersAlike each.2]

theorem entriesAgree_eq {left left' right right' : Bindings Key Value}
    (leftAlike : List.Forall₂ (AlikeEntry likeness) left left')
    (rightAlike : List.Forall₂ (AlikeEntry likeness) right right')
    (each : ∀ first ∈ left, ∀ first' second second', Alike likeness first.2 first' →
      Alike likeness second second' → first.2.equals second = first'.equals second') :
    Value.entriesAgree left right = Value.entriesAgree left' right' := by
  induction leftAlike with
  | nil => rfl
  | cons firstAlike _ ih =>
      rw [List.forall_mem_cons] at each
      cases firstAlike with
      | @entry key first first' _ firstAlike =>
          rw [Value.entriesAgree, Value.entriesAgree, ih each.2]
          have found := AlikeEntry.value? rightAlike key
          generalize Bindings.value? key right = second at found ⊢
          generalize Bindings.value? key right' = second' at found ⊢
          cases found with
          | none => rfl
          | some secondAlike => exact congrArg (· && _) (each.1 _ _ _ firstAlike secondAlike)

/-- Values that are alike are equal to the same values, if those are alike, too. -/
theorem Alike.equals_eq {left left' right right' : Value} (leftAlike : Alike likeness left left')
    (rightAlike : Alike likeness right right') : left.equals right = left'.equals right' := by
  induction left using Value.induct generalizing left' right right' with
  | integer value =>
      cases leftAlike
      cases rightAlike <;> rfl
  | boolean value =>
      cases leftAlike
      cases rightAlike <;> rfl
  | string content =>
      cases leftAlike
      cases rightAlike <;> rfl
  | array elements ih =>
      cases leftAlike with
      | array elementsAlike =>
          cases rightAlike with
          | array othersAlike =>
              exact allEqual_eq elementsAlike othersAlike
                fun first member _ _ _ firstAlike secondAlike =>
                  ih first member firstAlike secondAlike
          | _ => rfl
  | hash entries ih =>
      cases leftAlike with
      | hash _ entriesAlike =>
          cases rightAlike with
          | hash _ othersAlike =>
              rw [Value.equals, Value.equals, entriesAlike.length_eq, othersAlike.length_eq,
                entriesAgree_eq entriesAlike othersAlike
                  fun first member _ _ _ firstAlike secondAlike =>
                    ih first member firstAlike secondAlike]
          | _ => rfl
  | function closure =>
      cases leftAlike with
      | function same =>
          cases rightAlike with
          | function otherSame =>
              exact decide_eq_decide.mpr (likeness.oneToOne same otherSame)
          | _ => rfl
  | null =>
      cases leftAlike
      cases rightAlike <;> rfl

end Equality

section Operations

theorem agree_exactly (left : Integer) (operator : BinaryOperator) (right : Integer)
    (result : Int) :
    Agree (Alike likeness) (exactly left operator right result)
      (exactly left operator right result) := by
  rw [exactly]
  split
  · exact .ok (.integer _)
  · exact .error _

theorem agree_onIntegers (operator : BinaryOperator) (left right : Integer) :
    Agree (Alike likeness) (operator.onIntegers left right) (operator.onIntegers left right) := by
  cases operator with
  | add | subtract | multiply => exact agree_exactly _ _ _ _
  | divide =>
      rw [BinaryOperator.onIntegers]
      split
      · exact .error _
      · exact agree_exactly _ _ _ _
  | less | greater | equal | notEqual => exact .ok (.boolean _)

theorem Alike.unary (operator : UnaryOperator) {left right : Value}
    (alike : Alike likeness left right) :
    Agree (Alike likeness) (operator.apply left) (operator.apply right) := by
  cases operator with
  | not =>
      rw [UnaryOperator.apply, UnaryOperator.apply, alike.isTruthy_eq]
      exact .ok (.boolean _)
  | negate =>
      cases alike with
      | integer value =>
          rw [UnaryOperator.apply]
          split
          · exact .ok (.integer _)
          · exact .error _
      | _ => exact .error _

/-- What an operator makes of values that it has no rule of its own for. -/
def BinaryOperator.otherwise (operator : BinaryOperator) (left right : Value) :
    Except EvalError Value :=
  if left.type ≠ right.type then .error (.typeMismatch left.type operator right.type)
  else match operator with
    | .equal => .ok (.boolean (left.equals right))
    | .notEqual => .ok (.boolean (!left.equals right))
    | _ => .error (.unknownBinaryOperator left.type operator right.type)

theorem Alike.otherwise (operator : BinaryOperator) {left left' right right' : Value}
    (leftAlike : Alike likeness left left') (rightAlike : Alike likeness right right') :
    Agree (Alike likeness) (operator.otherwise left right) (operator.otherwise left' right') := by
  unfold BinaryOperator.otherwise
  rw [leftAlike.type_eq, rightAlike.type_eq, leftAlike.equals_eq rightAlike]
  split
  · exact .error _
  · cases operator <;> first | exact .ok (.boolean _) | exact .error _

theorem Alike.binary (operator : BinaryOperator) {left left' right right' : Value}
    (leftAlike : Alike likeness left left') (rightAlike : Alike likeness right right') :
    Agree (Alike likeness) (operator.apply left right) (operator.apply left' right') := by
  have compared := leftAlike.otherwise operator rightAlike
  cases leftAlike with
  | integer leftValue =>
      cases rightAlike with
      | integer rightValue => exact agree_onIntegers operator leftValue rightValue
      | _ => exact compared
  | string leftUsual =>
      cases rightAlike with
      | string rightUsual =>
          rw [BinaryOperator.apply]
          split
          · exact .ok (.string (likeness.append leftUsual rightUsual))
          · exact .error _
      | _ => exact compared
  | _ => exact compared

/-- Indexing and the built-in functions do not tell values that are alike from each other. -/
theorem structural_alike : Structural (Alike likeness) where
  shape alike := by
    cases alike with
    | integer value => exact .integer value
    | boolean value => exact .boolean value
    | string _ => exact .string _
    | array elementsAlike => exact .array elementsAlike
    | hash _ entriesAlike => exact .hash (AlikeEntry.value? entriesAlike)
    | function _ => exact .function _ _
    | null => exact .null
  integer := .integer
  array := .array
  null := .null

/-- Entries stay alike when a key is put, and their keys stay different. -/
theorem Alike.put {leftKey rightKey leftValue rightValue : Value} {left right : Bindings Key Value}
    {key : Key} (keyAlike : Alike likeness leftKey rightKey) (usable : leftKey.asKey = .ok key)
    (alike : Alike likeness leftValue rightValue)
    (entries : Alike likeness (.hash left) (.hash right)) :
    Alike likeness (.hash (Bindings.put key leftValue left))
      (.hash (Bindings.put key rightValue right)) := by
  have checked := keyAlike.asKey
  rw [usable] at checked
  generalize rightKey.asKey = other at checked
  cases checked with
  | ok same =>
      cases entries with
      | hash different entriesAlike =>
          exact .hash (Bindings.nodup_keys_put different key leftValue)
            (Bindings.forall₂_put entriesAlike (fun _ _ entry => entry.alike.1)
              (.entry same.2 alike))

/-- Values that are alike stand for each other. -/
def Likeness.matching (likeness : Likeness) : Matching where
  alike := Alike likeness
  closure := likeness.closure
  structural := structural_alike
  boolean := .boolean
  function := by
    intro left right
    constructor
    · rintro ⟨⟩
      assumption
    · exact .function
  noEntries := .hash .nil .nil
  put := Alike.put
  unary operator _ _ := Alike.unary operator
  binary operator _ _ _ _ := Alike.binary operator

end Operations

end Ember
