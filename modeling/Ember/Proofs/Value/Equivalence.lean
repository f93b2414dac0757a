import Mathlib.Data.List.Perm.Subperm
import Ember.Proofs.Value.Captures
import Ember.Proofs.Value.Entries
import Ember.Value.Printer

/-!
# Equality as an equivalence

Values are equal if they have the same shape, with the entries of hashes in any order. On
values in which every hash has each of its keys once that is an equivalence, and nothing
that a program can do with a value tells equal values apart: they are printed alike, they
stand for one key, and indexing and the built-in functions give equal results.
-/

namespace Ember

/-- Every entry on the left has an equal value for its key on the right. -/
theorem Value.entriesAgree_iff {left right : Bindings Key Value} :
    Value.entriesAgree left right ↔
      ∀ item ∈ left, ∃ other, Bindings.value? item.1 right = some other ∧
        item.2.equals other := by
  induction left with
  | nil => simp [Value.entriesAgree]
  | cons item rest ih =>
      rw [Value.entriesAgree, Bool.and_eq_true, ih, List.forall_mem_cons]
      cases Bindings.value? item.1 right <;> simp

section OptionRel

variable {α β : Type} {relation : α → β → Prop} {left : Option α} {right : Option β}
  (related : Option.Rel relation left right)
include related

theorem optionRel_of_mem {other : α → β → Prop}
    (each : ∀ first ∈ left, ∀ second ∈ right, relation first second → other first second) :
    Option.Rel other left right := by
  cases related with
  | none => exact .none
  | some holds => exact .some (each _ rfl _ rfl holds)

theorem optionRel_flip : Option.Rel (flip relation) right left := by
  cases related with
  | none => exact .none
  | some holds => exact .some holds

theorem exists_of_optionRel {first : α} (found : left = some first) :
    ∃ second, right = some second ∧ relation first second := by
  cases related with
  | none => cases found
  | some holds =>
      cases found
      exact ⟨_, rfl, holds⟩

theorem isSome_eq_of_optionRel : left.isSome = right.isSome := by
  cases related <;> rfl

end OptionRel

/-- The order in which texts are given has no part in their order when sorted. -/
theorem Text.sorted_eq_of_perm {left right : List String} (same : left.Perm right) :
    sorted left = sorted right := by
  have ordered (texts : List String) : (sorted texts).Pairwise (· ≤ ·) := by
    have transitive (first second third : String) :
        decide (first ≤ second) → decide (second ≤ third) → decide (first ≤ third) := by
      simpa using String.le_trans
    have total (first second : String) : decide (first ≤ second) || decide (second ≤ first) := by
      simpa using String.le_total first second
    exact (List.pairwise_mergeSort transitive total texts).imp of_decide_eq_true
  apply List.Perm.eq_of_pairwise _ (ordered left) (ordered right)
  · exact (sorted_perm left).trans (same.trans (sorted_perm right).symm)
  · intro first second _ _
    exact String.le_antisymm

/-- Finite maps with the same image of the value for every key have the same pairs of keys
and images. -/
theorem Bindings.perm_map_of_optionRel {α β γ : Type} [DecidableEq α] {left right : Bindings α β}
    {image : β → γ} (leftDifferent : (keys left).Nodup) (rightDifferent : (keys right).Nodup)
    (related : ∀ key, Option.Rel (fun first second => image first = image second)
      (value? key left) (value? key right)) :
    (left.map (Prod.map id image)).Perm (right.map (Prod.map id image)) := by
  have imagesDifferent {bindings : Bindings α β} (different : (keys bindings).Nodup) :
      (bindings.map (Prod.map id image)).Nodup := by
    apply List.Nodup.of_map Prod.fst
    rw [List.map_map]
    exact different
  have found {bindings : Bindings α β} (different : (keys bindings).Nodup) (key : α) (result : γ) :
      (key, result) ∈ bindings.map (Prod.map id image) ↔
        (value? key bindings).map image = some result := by
    simp [← value?_eq_some_iff different]
  rw [List.perm_ext_iff_of_nodup (imagesDifferent leftDifferent) (imagesDifferent rightDifferent)]
  rintro ⟨key, result⟩
  rw [found leftDifferent, found rightDifferent]
  have same := related key
  generalize value? key left = leftFound at same ⊢
  generalize value? key right = rightFound at same ⊢
  cases same with
  | none => rfl
  | some same => rw [Option.map_some, Option.map_some, same]

namespace Value

/-- Every hash in a value, at any depth, has each of its keys once. -/
def Keyed (value : Value) : Prop :=
  ∀ entries, .hash entries ∈ value.parts → (Bindings.keys entries).Nodup

/-- A value that has no parts and is no hash has no keys. -/
theorem keyed_of_parts {value : Value} (alone : value.parts = [value])
    (noHash : ∀ entries, value ≠ .hash entries) : value.Keyed := by
  intro entries member
  rw [alone, List.mem_singleton] at member
  exact absurd member.symm (noHash entries)

theorem keyed_array {elements : List Value} :
    (Value.array elements).Keyed ↔ ∀ element ∈ elements, element.Keyed := by
  constructor
  · intro keyed element member entries inside
    exact keyed entries (mem_parts_array.mpr (.inr ⟨element, member, inside⟩))
  · intro each entries inside
    rcases mem_parts_array.mp inside with impossible | ⟨element, member, deeper⟩
    · cases impossible
    · exact each element member entries deeper

theorem keyed_hash {entries : Bindings Key Value} :
    (Value.hash entries).Keyed ↔
      (Bindings.keys entries).Nodup ∧ ∀ entry ∈ entries, entry.2.Keyed := by
  constructor
  · intro keyed
    refine ⟨keyed entries (mem_parts_hash.mpr (.inl rfl)), ?_⟩
    intro entry member inner inside
    exact keyed inner (mem_parts_hash.mpr (.inr ⟨entry, member, .inr inside⟩))
  · rintro ⟨different, each⟩ inner inside
    rcases mem_parts_hash.mp inside with same | ⟨⟨key, value⟩, member, isKey | deeper⟩
    · cases same
      exact different
    · cases key <;> cases isKey
    · exact each _ member inner deeper

/-- What is equal to a value without parts is that value. -/
theorem eq_of_equals {left right : Value} (equal : left.equals right)
    (noArray : ∀ elements, left ≠ .array elements) (noHash : ∀ entries, left ≠ .hash entries) :
    left = right := by
  cases left with
  | array elements => exact absurd rfl (noArray elements)
  | hash entries => exact absurd rfl (noHash entries)
  | _ => cases right <;> simp_all [Value.equals]

/-- Arrays are equal element by element. -/
theorem equals_array {left right : List Value} :
    (Value.array left).equals (.array right) ↔
      List.Forall₂ (fun first second => first.equals second) left right := by
  change Value.allEqual left right = true ↔ _
  induction left generalizing right with
  | nil => cases right <;> simp [Value.allEqual]
  | cons first rest ih => cases right <;> simp [Value.allEqual, ih]

/-- Hashes with different keys are equal as finite maps: for every key they have equal
values, or none. -/
theorem equals_hash {left right : Bindings Key Value} (leftDifferent : (Bindings.keys left).Nodup)
    (rightDifferent : (Bindings.keys right).Nodup) :
    (Value.hash left).equals (.hash right) ↔
      ∀ key, Option.Rel (fun first second => first.equals second)
        (Bindings.value? key left) (Bindings.value? key right) := by
  rw [Value.equals, Bool.and_eq_true, beq_iff_eq, entriesAgree_iff]
  constructor
  · rintro ⟨sameLength, each⟩ key
    have bound : Bindings.keys left ⊆ Bindings.keys right := by
      intro key member
      obtain ⟨entry, inside, rfl⟩ := List.mem_map.mp member
      obtain ⟨other, found, -⟩ := each entry inside
      rw [← Bindings.value?_isSome_iff, found]
      rfl
    -- The keys on the left are keys on the right, and there are as many of them.
    have sameKeys : (Bindings.keys left).Perm (Bindings.keys right) := by
      apply (List.Nodup.subperm leftDifferent bound).perm_of_length_le
      simp [Bindings.keys, sameLength]
    cases found : Bindings.value? key left with
    | some value =>
        obtain ⟨other, otherFound, equal⟩ :=
          each _ ((Bindings.value?_eq_some_iff leftDifferent).mp found)
        rw [otherFound]
        exact .some equal
    | none =>
        rw [Bindings.value?_eq_none_iff, sameKeys.mem_iff, ← Bindings.value?_eq_none_iff] at found
        rw [found]
        exact .none
  · intro related
    have sameKeys : (Bindings.keys left).Perm (Bindings.keys right) := by
      rw [List.perm_ext_iff_of_nodup leftDifferent rightDifferent]
      intro key
      rw [← Bindings.value?_isSome_iff, ← Bindings.value?_isSome_iff,
        isSome_eq_of_optionRel (related key)]
    refine ⟨by simpa [Bindings.keys] using sameKeys.length_eq, ?_⟩
    intro entry member
    exact exists_of_optionRel (related entry.1)
      ((Bindings.value?_eq_some_iff leftDifferent).mpr member)

/-- Equal values with different keys in every hash. -/
structure Equal (left right : Value) : Prop where
  leftKeyed : left.Keyed
  rightKeyed : right.Keyed
  equals : left.equals right

/-- Arrays are equal if their elements are. -/
theorem equal_array {left right : List Value} :
    Equal (.array left) (.array right) ↔ List.Forall₂ Equal left right := by
  constructor
  · rintro ⟨leftKeyed, rightKeyed, equal⟩
    rw [keyed_array] at leftKeyed rightKeyed
    rw [equals_array] at equal
    induction equal with
    | nil => exact .nil
    | cons firstEqual _ ih =>
        rw [List.forall_mem_cons] at leftKeyed rightKeyed
        exact .cons ⟨leftKeyed.1, rightKeyed.1, firstEqual⟩ (ih leftKeyed.2 rightKeyed.2)
  · intro each
    refine ⟨keyed_array.mpr ?_, keyed_array.mpr ?_,
      equals_array.mpr (each.imp fun _ _ => Equal.equals)⟩
    · intro element member
      obtain ⟨_, equal⟩ := exists_of_forall₂ each member
      exact equal.leftKeyed
    · intro element member
      obtain ⟨_, equal⟩ := exists_of_forall₂ each.flip member
      exact equal.rightKeyed

/-- Hashes are equal if they are the same finite map, up to equal values. -/
theorem equal_hash {left right : Bindings Key Value} :
    Equal (.hash left) (.hash right) ↔
      (Bindings.keys left).Nodup ∧ (Bindings.keys right).Nodup ∧
        ∀ key, Option.Rel Equal (Bindings.value? key left) (Bindings.value? key right) := by
  constructor
  · rintro ⟨leftKeyed, rightKeyed, equal⟩
    obtain ⟨leftDifferent, leftEach⟩ := keyed_hash.mp leftKeyed
    obtain ⟨rightDifferent, rightEach⟩ := keyed_hash.mp rightKeyed
    refine ⟨leftDifferent, rightDifferent, ?_⟩
    intro key
    apply optionRel_of_mem ((equals_hash leftDifferent rightDifferent).mp equal key)
    intro value found other otherFound valueEqual
    exact ⟨leftEach _ (Bindings.mem_of_value? found),
      rightEach _ (Bindings.mem_of_value? otherFound), valueEqual⟩
  · rintro ⟨leftDifferent, rightDifferent, each⟩
    refine ⟨keyed_hash.mpr ⟨leftDifferent, ?_⟩, keyed_hash.mpr ⟨rightDifferent, ?_⟩, ?_⟩
    · intro entry member
      have found := (Bindings.value?_eq_some_iff leftDifferent).mpr member
      obtain ⟨_, _, equal⟩ := exists_of_optionRel (each entry.1) found
      exact equal.leftKeyed
    · intro entry member
      have found := (Bindings.value?_eq_some_iff rightDifferent).mpr member
      obtain ⟨_, _, equal⟩ := exists_of_optionRel (optionRel_flip (each entry.1)) found
      exact equal.rightKeyed
    · rw [equals_hash leftDifferent rightDifferent]
      intro key
      exact optionRel_of_mem (each key) fun _ _ _ _ equal => equal.equals

namespace Equal

variable {left middle right : Value}

/-- Every value is equal to itself. -/
theorem refl {value : Value} (keyed : value.Keyed) : Equal value value := by
  induction value using Value.induct with
  | integer | boolean | string | function => exact ⟨keyed, keyed, by simp [Value.equals]⟩
  | null => exact ⟨keyed, keyed, rfl⟩
  | array elements ih =>
      rw [keyed_array] at keyed
      exact equal_array.mpr (List.forall₂_same.mpr fun element member =>
        ih element member (keyed element member))
  | hash entries ih =>
      obtain ⟨different, each⟩ := keyed_hash.mp keyed
      refine equal_hash.mpr ⟨different, different, ?_⟩
      intro key
      cases found : Bindings.value? key entries with
      | none => exact .none
      | some value =>
          have member := Bindings.mem_of_value? found
          exact .some (ih _ member (each _ member))

/-- What holds of a value and itself, and passes from the elements of arrays and from the
values that hashes have for the same key to these, holds of all equal values. -/
theorem induct {motive : Value → Value → Prop}
    (same : ∀ value : Value, value.Keyed → motive value value)
    (array : ∀ left right, List.Forall₂ motive left right → motive (.array left) (.array right))
    (hash : ∀ left right, (Bindings.keys left).Nodup → (Bindings.keys right).Nodup →
      (∀ key, Option.Rel motive (Bindings.value? key left) (Bindings.value? key right)) →
        motive (.hash left) (.hash right))
    (equal : Equal left right) : motive left right := by
  induction left using Value.induct generalizing right with
  | integer | boolean | string | function | null =>
      cases eq_of_equals equal.equals nofun nofun
      exact same _ equal.leftKeyed
  | array elements ih =>
      cases right with
      | array others =>
          rw [equal_array] at equal
          apply array
          induction equal with
          | nil => exact .nil
          | cons firstEqual _ rest =>
              rw [List.forall_mem_cons] at ih
              exact .cons (ih.1 firstEqual) (rest ih.2)
      | _ => cases equal.equals
  | hash entries ih =>
      cases right with
      | hash others =>
          obtain ⟨leftDifferent, rightDifferent, each⟩ := equal_hash.mp equal
          apply hash entries others leftDifferent rightDifferent
          intro key
          exact optionRel_of_mem (each key) fun _ found _ _ valueEqual =>
            ih _ (Bindings.mem_of_value? found) valueEqual
      | _ => cases equal.equals

/-- Equality is symmetric. -/
theorem symm (equal : Equal left right) : Equal right left := by
  refine equal.induct (motive := fun left right => Equal right left) ?_ ?_ ?_
  · intro value keyed
    exact refl keyed
  · intro left right each
    exact equal_array.mpr each.flip
  · intro left right leftDifferent rightDifferent each
    exact equal_hash.mpr ⟨rightDifferent, leftDifferent, fun key => optionRel_flip (each key)⟩

/-- Equality is transitive. -/
theorem trans (equal : Equal left middle) (further : Equal middle right) : Equal left right := by
  refine equal.induct (motive := fun left middle => ∀ right, Equal middle right → Equal left right)
    ?_ ?_ ?_ right further
  · intro value _ right equal
    exact equal
  · intro left middle each right equal
    cases right with
    | array others =>
        rw [equal_array] at equal ⊢
        induction each generalizing others with
        | nil => exact equal
        | cons first _ ih =>
            cases equal with
            | cons firstEqual restEqual => exact .cons (first _ firstEqual) (ih _ restEqual)
    | _ => cases equal.equals
  · intro left middle leftDifferent _ each right equal
    cases right with
    | hash others =>
        obtain ⟨_, rightDifferent, further⟩ := equal_hash.mp equal
        refine equal_hash.mpr ⟨leftDifferent, rightDifferent, ?_⟩
        intro key
        have first := each key
        have second := further key
        generalize Bindings.value? key left = leftFound at first ⊢
        generalize Bindings.value? key middle = middleFound at first second
        generalize Bindings.value? key others = rightFound at second ⊢
        cases first with
        | none =>
            cases second
            exact .none
        | some first =>
            cases second with
            | some second => exact .some (first _ second)
    | _ => cases equal.equals

end Equal

/-- Equal values have the same shape. -/
theorem structural_equal : Structural Equal where
  shape {left right} equal := by
    cases left with
    | array elements =>
        cases right with
        | array others => exact .array (equal_array.mp equal)
        | _ => cases equal.equals
    | hash entries =>
        cases right with
        | hash others => exact .hash (equal_hash.mp equal).2.2
        | _ => cases equal.equals
    | _ =>
        cases eq_of_equals equal.equals nofun nofun
        constructor
  integer value := .refl (keyed_of_parts rfl nofun)
  array := equal_array.mpr
  null := .refl (keyed_of_parts rfl nofun)

/-- Equal values have the same text: the entries of a hash are printed in the order of their
texts, whatever order they are in. -/
theorem Equal.render_eq {left right : Value} (equal : Equal left right) :
    left.render = right.render := by
  refine equal.induct (motive := fun left right => left.render = right.render) ?_ ?_ ?_
  · intro value _
    rfl
  · intro left right each
    have texts : left.map Value.render = right.map Value.render := by
      induction each with
      | nil => rfl
      | cons first _ ih => rw [List.map_cons, List.map_cons, first, ih]
    rw [Value.render, Value.render, renderAll_eq_map, renderAll_eq_map, texts]
  · intro left right leftDifferent rightDifferent each
    have texts := (Bindings.perm_map_of_optionRel leftDifferent rightDifferent each).map
      fun (key, text) => Key.render key ++ ": " ++ text
    rw [List.map_map, List.map_map] at texts
    rw [Value.render, Value.render, renderEntries_eq_map, renderEntries_eq_map]
    exact congrArg (fun texts => inBraces (Text.joined ", " texts)) (Text.sorted_eq_of_perm texts)

/-- Entries in any order are equal hashes. -/
theorem equal_of_perm {entries others : Bindings Key Value} (same : entries.Perm others)
    (keyed : (Value.hash entries).Keyed) : Equal (.hash entries) (.hash others) := by
  obtain ⟨different, each⟩ := keyed_hash.mp keyed
  refine equal_hash.mpr ⟨different, (same.map Prod.fst).nodup_iff.mp different, ?_⟩
  intro key
  rw [← Bindings.value?_eq_of_perm same different]
  exact (equal_hash.mp (Equal.refl keyed)).2.2 key

end Value

end Ember
