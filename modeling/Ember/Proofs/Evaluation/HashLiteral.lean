import Ember.Proofs.Evaluation.Correspondence
import Ember.Proofs.Value.Entries

/-!
# Hash literals

The pairs of a hash literal are evaluated from left to right, each key before its value, and
a key is checked before its value is evaluated. The first signal ends the evaluation. Without
one, the literal comes to the finite map in which the last pair of every key is the one that
counts, and the value of a key stands for that key only.
-/

namespace Ember

section Pairs

variable {State : Type} (recur : Node → Context → Eval State Value) (context : Context)

/-- All pairs come to values, one after the other, and every key to a value that can be one. -/
inductive PairsEvaluated :
    Nat → Machine State → List (Expr × Expr) → List (Value × Value) → Machine State → Prop where
  | nil {position : Nat} {machine : Machine State} :
      PairsEvaluated position machine [] [] machine
  | cons {position : Nat} {machine checked next after : Machine State} {key value : Expr}
      {rest : List (Expr × Expr)} {keyObject object : Value} {objects : List (Value × Value)} :
      recur (.expr key) (context.child position) machine = (.ok keyObject, checked) →
        keyObject.key? ≠ none →
          recur (.expr value) (context.child (position + 1)) checked = (.ok object, next) →
            PairsEvaluated (position + 2) next rest objects after →
              PairsEvaluated position machine ((key, value) :: rest)
                ((keyObject, object) :: objects) after

/-- A signal ends the evaluation of the pairs: that of a key, the check of a key, or that of
a value, in the first pair that has one. -/
inductive PairsStopped :
    Nat → Machine State → List (Expr × Expr) → Signal → Machine State → Prop where
  | key {position : Nat} {machine after : Machine State} {key value : Expr}
      {rest : List (Expr × Expr)} {signal : Signal} :
      recur (.expr key) (context.child position) machine = (.error signal, after) →
        PairsStopped position machine ((key, value) :: rest) signal after
  | unusable {position : Nat} {machine after : Machine State} {key value : Expr}
      {rest : List (Expr × Expr)} {keyObject : Value} :
      recur (.expr key) (context.child position) machine = (.ok keyObject, after) →
        keyObject.key? = none →
          PairsStopped position machine ((key, value) :: rest)
            (.failed (.unusableKey keyObject.type)) after
  | value {position : Nat} {machine checked after : Machine State} {key value : Expr}
      {rest : List (Expr × Expr)} {keyObject : Value} {signal : Signal} :
      recur (.expr key) (context.child position) machine = (.ok keyObject, checked) →
        keyObject.key? ≠ none →
          recur (.expr value) (context.child (position + 1)) checked = (.error signal, after) →
            PairsStopped position machine ((key, value) :: rest) signal after
  | later {position : Nat} {machine checked next after : Machine State} {key value : Expr}
      {rest : List (Expr × Expr)} {keyObject object : Value} {signal : Signal} :
      recur (.expr key) (context.child position) machine = (.ok keyObject, checked) →
        keyObject.key? ≠ none →
          recur (.expr value) (context.child (position + 1)) checked = (.ok object, next) →
            PairsStopped (position + 2) next rest signal after →
              PairsStopped position machine ((key, value) :: rest) signal after

variable {recur context}

/-- The pairs come to values, or a signal ends their evaluation. -/
theorem pairs_evaluated_or_stopped (position : Nat) (machine : Machine State)
    (pairs : List (Expr × Expr)) :
    (∃ objects after, PairsEvaluated recur context position machine pairs objects after) ∨
      ∃ signal after, PairsStopped recur context position machine pairs signal after := by
  induction pairs generalizing position machine with
  | nil => exact .inl ⟨_, _, .nil⟩
  | cons pair rest ih =>
      obtain ⟨key, value⟩ := pair
      cases keyRun : recur (.expr key) (context.child position) machine with
      | mk keyResult checked =>
        cases keyResult with
        | error signal => exact .inr ⟨_, _, .key keyRun⟩
        | ok keyObject =>
          by_cases usable : keyObject.key? = none
          · exact .inr ⟨_, _, .unusable keyRun usable⟩
          cases valueRun : recur (.expr value) (context.child (position + 1)) checked with
          | mk valueResult next =>
            cases valueResult with
            | error signal => exact .inr ⟨_, _, .value keyRun usable valueRun⟩
            | ok object =>
              rcases ih (position + 2) next with ⟨_, _, evaluated⟩ | ⟨_, _, stopped⟩
              · exact .inl ⟨_, _, .cons keyRun usable valueRun evaluated⟩
              · exact .inr ⟨_, _, .later keyRun usable valueRun stopped⟩

/-- A value that can be a key is the value of one, and passes the check. -/
theorem Value.exists_key {value : Value} (usable : value.key? ≠ none) :
    ∃ key : Key, value = key.toValue ∧ value.asKey = .ok key := by
  obtain ⟨key, isKey⟩ := Option.ne_none_iff_exists'.mp usable
  exact ⟨key, Value.key?_eq_some_iff.mp isKey, by rw [Value.asKey, isKey]⟩

theorem Value.asKey_of_unusable {value : Value} (unusable : value.key? = none) :
    value.asKey = .error (.unusableKey value.type) := by
  rw [Value.asKey, unusable]

/-- What a pair came to, for an entry. -/
def Key.object (entry : Key × Value) : Value × Value :=
  (entry.1.toValue, entry.2)

/-- Pairs that come to values are put one after the other. -/
theorem PairsEvaluated.evalEntries_eq {position : Nat} {machine after : Machine State}
    {pairs : List (Expr × Expr)} {objects : List (Value × Value)}
    (evaluated : PairsEvaluated recur context position machine pairs objects after) :
    ∃ bindings : List (Key × Value), objects = bindings.map Key.object ∧
      ∀ entries, evalEntries recur context position entries pairs machine =
        (.ok (Bindings.putAll entries bindings), after) := by
  induction evaluated with
  | nil => exact ⟨[], rfl, fun _ => rfl⟩
  | @cons _ _ _ _ _ _ _ _ _ object _ keyRun usable valueRun _ ih =>
      obtain ⟨key, rfl, checked⟩ := Value.exists_key usable
      obtain ⟨bindings, rfl, others⟩ := ih
      refine ⟨(key, object) :: bindings, rfl, ?_⟩
      intro entries
      simp only [evalEntries, Eval.bind_apply, keyRun, checked, Eval.ofOperation, Eval.pure_apply,
        valueRun, others, Bindings.putAll_cons]

/-- A signal ends the evaluation of the entries. -/
theorem PairsStopped.evalEntries_eq {position : Nat} {machine after : Machine State}
    {pairs : List (Expr × Expr)} {signal : Signal}
    (stopped : PairsStopped recur context position machine pairs signal after)
    (entries : Bindings Key Value) :
    evalEntries recur context position entries pairs machine = (.error signal, after) := by
  induction stopped generalizing entries with
  | key keyRun => simp only [evalEntries, Eval.bind_apply, keyRun]
  | unusable keyRun unusable =>
      simp only [evalEntries, Eval.bind_apply, keyRun, Value.asKey_of_unusable unusable,
        Eval.ofOperation, Eval.signal]
  | value keyRun usable valueRun =>
      obtain ⟨key, rfl, checked⟩ := Value.exists_key usable
      simp only [evalEntries, Eval.bind_apply, keyRun, checked, Eval.ofOperation, Eval.pure_apply,
        valueRun]
  | later keyRun usable valueRun _ ih =>
      obtain ⟨key, rfl, checked⟩ := Value.exists_key usable
      simp only [evalEntries, Eval.bind_apply, keyRun, checked, Eval.ofOperation, Eval.pure_apply,
        valueRun, ih]

end Pairs

namespace Key

theorem toValue_injective : Function.Injective Key.toValue := by
  intro left right same
  have keys := congrArg Value.key? same
  simpa using keys

/-- The value of a key is found where the key is. -/
theorem lookup_map_object (key : Key) (bindings : List (Key × Value)) :
    (bindings.map object).lookup key.toValue = bindings.lookup key := by
  induction bindings with
  | nil => rfl
  | cons entry rest ih =>
      have same : (key.toValue == entry.1.toValue) = (key == entry.1) := by
        rw [Bool.eq_iff_iff, beq_iff_eq, beq_iff_eq, toValue_injective.eq_iff]
      rw [List.map_cons, object, List.lookup_cons, List.lookup_cons, same, ih]

end Key

/-- A key is looked up in a hash as the last of the pairs that made it. -/
theorem Value.elementAt_putAll (bindings : List (Key × Value)) (key : Key) :
    (Value.hash (Bindings.putAll [] bindings)).elementAt key.toValue =
      .ok (((bindings.map Key.object).reverse.lookup key.toValue).getD .null) := by
  have usable : key.toValue.asKey = .ok key := by rw [Value.asKey, Key.key?_toValue]
  have found : Bindings.value? key (Bindings.putAll [] bindings) = bindings.reverse.lookup key := by
    rw [Bindings.value?_putAll, Bindings.value?_nil, Option.or_none]
  rw [← List.map_reverse, Key.lookup_map_object, ← found, Value.elementAt, usable]

/-- A hash literal comes to what its entries come to. -/
theorem evalNode_hash_of_evalEntries {State : Type} {sink : Sink State} {depth : Nat}
    {pairs : List (Expr × Expr)} {context : Context} {machine after : Machine State}
    {result : Except Signal (Bindings Key Value)}
    (run : evalEntries (evalNode sink depth) context 0 [] pairs machine = (result, after)) :
    (evalNode sink (depth + 1) (.expr (.hash pairs)) context machine).1 = result.map Value.hash ∧
      (evalNode sink (depth + 1) (.expr (.hash pairs)) context machine).2.store = after.store := by
  have step : (Node.expr (.hash pairs)).step (evalNode sink depth) context machine =
      (result.map Value.hash, after) := by
    simp only [Node.step, Expr.step, Eval.bind_apply, run]
    cases result <;> rfl
  rw [evalNode, Eval.observe_apply, step]
  exact ⟨rfl, rfl⟩

/-- A hash literal comes to the finite map of its pairs, or to the first signal.

If all keys and values come to values, and all keys to values that can be keys, then every key
is looked up as the last pair that has it, and is null if there is none; every entry stands
under the key of a pair; and there are as many entries as different keys. Otherwise a signal
ends the evaluation, in the order in which keys are evaluated and checked and values are
evaluated. A value that can be no key is no index of a hash, either. -/
theorem evalNode_hash {State : Type} (sink : Sink State) (depth : Nat) (pairs : List (Expr × Expr))
    (context : Context) (machine : Machine State) :
    let run := evalNode sink (depth + 1) (.expr (.hash pairs)) context machine
    (∀ objects after,
      PairsEvaluated (evalNode sink depth) context 0 machine pairs objects after →
        ∃ entries, run.1 = .ok (.hash entries) ∧ run.2.store = after.store ∧
          (∀ key : Key, (Value.hash entries).elementAt key.toValue =
            .ok ((objects.reverse.lookup key.toValue).getD .null)) ∧
          (∀ entry ∈ entries, ∃ pair ∈ objects,
            pair.1.key? = some entry.1 ∧ pair.2 = entry.2) ∧
          entries.length = (objects.map Prod.fst).dedup.length) ∧
    (∀ signal after,
      PairsStopped (evalNode sink depth) context 0 machine pairs signal after →
        run.1 = .error signal ∧ run.2.store = after.store) ∧
    ((∃ objects after,
        PairsEvaluated (evalNode sink depth) context 0 machine pairs objects after) ∨
      ∃ signal after, PairsStopped (evalNode sink depth) context 0 machine pairs signal after) ∧
    (∀ (entries : Bindings Key Value) (position : Value), position.key? = none →
      (Value.hash entries).elementAt position = .error (.unusableKey position.type)) := by
  intro run
  refine ⟨?_, ?_, pairs_evaluated_or_stopped 0 machine pairs, ?_⟩
  · intro objects after evaluated
    obtain ⟨bindings, rfl, entered⟩ := evaluated.evalEntries_eq
    obtain ⟨result, left⟩ := evalNode_hash_of_evalEntries (entered [])
    refine ⟨Bindings.putAll [] bindings, result, left, Value.elementAt_putAll bindings, ?_, ?_⟩
    · intro entry member
      exact ⟨_, List.mem_map_of_mem (Bindings.mem_of_mem_putAll member), Key.key?_toValue _, rfl⟩
    · have keys : (bindings.map Key.object).map Prod.fst =
          (bindings.map Prod.fst).map Key.toValue := by
        rw [List.map_map, List.map_map]
        rfl
      rw [Bindings.length_putAll, keys, List.dedup_map_of_injective Key.toValue_injective,
        List.length_map]
  · intro signal after stopped
    exact evalNode_hash_of_evalEntries (stopped.evalEntries_eq [])
  · intro entries position unusable
    rw [Value.elementAt, Value.asKey_of_unusable unusable]

/-- A key that stands twice, beside a text that looks like it. -/
theorem evalNode_hash_repeatedKey :
    ∃ entries,
      (evalNode .silent 2 (.expr (.hash [(.boolean true, .string "a"),
        (.string "true", .string "b"), (.boolean true, .string "c")])) ⟨0, .root 0⟩
          ⟨.empty, ()⟩).1 = .ok (.hash entries) ∧
      (Value.hash entries).elementAt (.boolean true) = .ok (.string "c") ∧
      (Value.hash entries).elementAt (.boolean false) = .ok .null ∧
      entries.length = 2 := by
  have evaluated : PairsEvaluated (evalNode .silent 1) ⟨0, .root 0⟩ 0 ⟨.empty, ()⟩
      [(.boolean true, .string "a"), (.string "true", .string "b"), (.boolean true, .string "c")]
      [(.boolean true, .string "a"), (.string "true", .string "b"), (.boolean true, .string "c")]
      ⟨.empty, ()⟩ :=
    .cons rfl nofun rfl (.cons rfl nofun rfl (.cons rfl nofun rfl .nil))
  obtain ⟨entries, came, -, found, -, count⟩ :=
    (evalNode_hash .silent 1 _ _ _).1 _ _ evaluated
  exact ⟨entries, came, found (.boolean true), found (.boolean false), count⟩

end Ember
