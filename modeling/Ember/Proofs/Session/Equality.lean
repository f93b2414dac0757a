import Ember.Proofs.Session.World
import Ember.Proofs.Value.Equivalence

/-!
# Equal values of a session

The hashes that evaluations make have different keys, so equality is an equivalence between
the values of a session, and nothing that a program can do with values tells equal ones apart.
-/

namespace Ember

/-- A value with different keys in every hash. -/
abbrev KeyedValue := { value : Value // value.Keyed }

namespace Value

/-- What a session can hold has different keys in every hash. -/
theorem Sound.keyed {programs : Nat} {value : Value} (sound : value.Sound programs) :
    value.Keyed :=
  fun _ member => sound _ member

theorem equal_of_keyed {left right : KeyedValue} (equals : left.val.equals right.val) :
    Equal left.val right.val :=
  ⟨left.property, right.property, equals⟩

/-- Pairs with different keys make equal hashes, in whatever order they are put and the
entries are listed. -/
theorem equal_putAll {pairs others entries otherEntries : Bindings Key Value}
    (different : (Bindings.keys pairs).Nodup) (keyed : ∀ pair ∈ pairs, pair.2.Keyed)
    (same : pairs.Perm others) (listed : entries.Perm (Bindings.putAll [] pairs))
    (otherListed : otherEntries.Perm (Bindings.putAll [] others)) :
    Equal (.hash entries) (.hash otherEntries) := by
  have otherDifferent : (Bindings.keys others).Nodup := (same.map Prod.fst).nodup_iff.mp different
  rw [Bindings.putAll_of_nodup (by simpa using different), List.nil_append] at listed
  rw [Bindings.putAll_of_nodup (by simpa using otherDifferent), List.nil_append] at otherListed
  have first : Equal (.hash pairs) (.hash entries) :=
    equal_of_perm listed.symm (keyed_hash.mpr ⟨different, keyed⟩)
  have second : Equal (.hash pairs) (.hash otherEntries) :=
    equal_of_perm (same.trans otherListed.symm) (keyed_hash.mpr ⟨different, keyed⟩)
  exact first.symm.trans second

/-- Equality is an equivalence of the values with different keys in every hash, and evaluations
come to no others.

Equal values have the same text and the same type, hold alike as conditions, and stand for one
key or for none. Indexing them at equal positions and calling a built-in function with equal
arguments gives equal results, or the same error. Pairs with different keys make equal hashes
with one text, in whatever order they are put and the entries are listed. -/
theorem equality_is_congruence :
    (∀ {State : Type} (sink : Sink State) (depth : Nat) (source : String) (scope : ScopeId)
      (world : World) (trace : State) (value : Value), world.Sound →
        (evaluateWith sink depth source scope world trace).outcome = .value value →
          value.Keyed) ∧
    Equivalence (fun left right : KeyedValue => left.val.equals right.val) ∧
    (∀ left right : KeyedValue, left.val.equals right.val →
      left.val.render = right.val.render ∧ left.val.type = right.val.type ∧
        left.val.isTruthy = right.val.isTruthy ∧ left.val.asKey = right.val.asKey) ∧
    (∀ left right position other : KeyedValue, left.val.equals right.val →
      position.val.equals other.val →
        Agree (fun first second => first.equals second)
          (left.val.elementAt position.val) (right.val.elementAt other.val)) ∧
    (∀ (builtin : Builtin) (arguments others : List KeyedValue),
      List.Forall₂ (fun left right => left.val.equals right.val) arguments others →
        Agree (fun first second => first.equals second)
          (builtin.apply (arguments.map Subtype.val)) (builtin.apply (others.map Subtype.val))) ∧
    (∀ pairs others entries otherEntries : Bindings Key Value,
      (Bindings.keys pairs).Nodup → (∀ pair ∈ pairs, pair.2.Keyed) → pairs.Perm others →
        entries.Perm (Bindings.putAll [] pairs) →
          otherEntries.Perm (Bindings.putAll [] others) →
            (Value.hash entries).equals (.hash otherEntries) ∧
              (Value.hash entries).render = (Value.hash otherEntries).render) := by
  refine ⟨?_, ⟨?_, ?_, ?_⟩, ?_, ?_, ?_, ?_⟩
  · intro State sink depth source scope world trace value sound ended
    exact (sound.outcome ended).keyed
  · intro value
    exact (Equal.refl value.property).equals
  · intro left right equals
    exact (equal_of_keyed equals).symm.equals
  · intro left middle right first second
    exact ((equal_of_keyed first).trans (equal_of_keyed second)).equals
  · intro left right equals
    have equal := equal_of_keyed equals
    have shape := structural_equal.shape equal
    exact ⟨equal.render_eq, shape.type_eq, shape.isTruthy_eq, shape.asKey_eq⟩
  · intro left right position other collections positions
    exact (structural_equal.elementAt (equal_of_keyed collections) (equal_of_keyed positions)).mono
      fun _ _ => Equal.equals
  · intro builtin arguments others each
    have related : List.Forall₂ Equal (arguments.map Subtype.val) (others.map Subtype.val) := by
      rw [List.forall₂_map_left_iff, List.forall₂_map_right_iff]
      exact each.imp fun _ _ => equal_of_keyed
    exact (structural_equal.builtin builtin related).mono fun _ _ => Equal.equals
  · intro pairs others entries otherEntries different keyed same listed otherListed
    have equal := equal_putAll different keyed same listed otherListed
    exact ⟨equal.equals, equal.render_eq⟩

/-- Two hashes with the same entries, the one way round and the other. -/
theorem equality_is_congruence_swapped :
    (Value.hash [(.boolean true, .null), (.string "a", .array [.null])]).equals
        (.hash [(.string "a", .array [.null]), (.boolean true, .null)]) ∧
      (Value.hash [(.boolean true, .null), (.string "a", .array [.null])]).render =
        (Value.hash [(.string "a", .array [.null]), (.boolean true, .null)]).render := by
  have null : Value.null.Keyed := keyed_of_parts rfl nofun
  exact equality_is_congruence.2.2.2.2.2 [(.boolean true, .null), (.string "a", .array [.null])]
    [(.string "a", .array [.null]), (.boolean true, .null)] _ _ (by decide)
    (by simp [keyed_array, null]) (.swap _ _ _) (.refl _) (.refl _)

end Value

end Ember
