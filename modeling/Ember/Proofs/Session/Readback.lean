import Ember.Proofs.Evaluation.Echo
import Ember.Proofs.Session.World

/-!
# Values read back

What a source came to is printed and evaluated again. No string that comes out of a run
contains a quote, since no string literal does, and every hash has each of its keys once;
that is an invariant of runs. So a value without functions comes back, unless it
contains null or the lowest number.
-/

namespace Ember

open Text (joined sorted)
open Grammar (Derives Tier)

/-- The view of a run from a scope on, in which no text contains a quote. -/
def View.unquoted (base : ScopeId) : View where
  site left right := left = right
  visible scope := base ≤ scope
  text content := '"' ∉ content.toList
  test := Expr.isWritable
  stmtTest := Stmt.isWritable
  child same position := congrArg (·.child position) same
  oneToOne := by
    rintro first second _ _ rfl rfl
    rfl
  append leftFree rightFree := by
    rw [String.toList_append, List.mem_append, not_or]
    exact ⟨leftFree, rightFree⟩
  string free := by simpa [Expr.isWritable] using free

/-- Nothing can be seen of a world in which a scope is to be opened. -/
theorem View.stores_unquoted (store : Store) :
    (View.unquoted store.scopes.size).Stores store store := by
  refine ⟨rfl, fun _ opened => opened, ?_⟩
  intro scope opened
  have unopened : store.scope? scope = none := Array.getElem?_eq_none opened
  rw [unopened]
  exact .none

theorem Alike.printable {base : ScopeId} {value other : Value}
    (alike : Alike (View.unquoted base).likeness value other)
    (noFunction : ∀ closure, .function closure ∉ value.parts) :
    ∀ part ∈ value.parts, part.Printable := by
  intro part member
  obtain ⟨_, partAlike⟩ := alike.exists_part member
  cases partAlike with
  | string free => exact free
  | hash different _ => exact different
  | function _ => exact absurd member (noFunction _)
  | integer | boolean | array | null => trivial

/-- What a source comes to in a scope of its own can be printed, but for functions. -/
theorem printable_of_evaluate {depth : Nat} {source : String} {world : World} {value : Value}
    (evaluated : (evaluate depth source world).outcome = .value value)
    (noFunction : ∀ closure, .function closure ∉ value.parts) :
    ∀ part ∈ value.parts, part.Printable := by
  -- The run is compared with itself, and nothing that was there before it can be seen.
  let view := View.unquoted world.store.scopes.size
  have contexts (place : Site) :
      view.Contexts ⟨world.store.scopes.size, place⟩ ⟨world.store.scopes.size, place⟩ :=
    ⟨rfl, rfl, Nat.le_refl _⟩
  have stores : view.Stores (world.enter none).2.store (world.enter none).2.store :=
    (View.stores_unquoted world.store).enter nofun
  have outcomes : OutcomesAlike view.likeness (evaluate depth source world).outcome
      (evaluate depth source world).outcome :=
    (view.evaluateWith .silent .silent depth source (fun _ => Parsing.writable_of_parsed)
      (contexts _) stores () ()).1
  rw [evaluated] at outcomes
  cases outcomes with
  | value alike => exact alike.printable noFunction

/-- The text of a value with the lowest number in it has syntax errors. -/
theorem evaluate_render_of_lowest {value : Value}
    (printable : ∀ part ∈ value.parts, part.Printable) (lowest : .integer .lowest ∈ value.parts)
    (depth : Nat) (world : World) :
    ∃ diagnostics, (evaluate depth value.render world).outcome = .faulty diagnostics ∧
      diagnostics ≠ [] ∧ ∀ diagnostic ∈ diagnostics, diagnostic.kind = .parse := by
  obtain ⟨errors, parsed, nonempty, syntactic⟩ := value.errors_render printable lowest
  refine ⟨_, (evaluateWith_of_error .silent depth _ _ () parsed).1, by simpa using nonempty, ?_⟩
  rw [List.forall_mem_map]
  intro error member
  rw [Diagnostic.kind, syntactic error member]
  rfl

/-- The text of any other value comes to an equal one, or fails for the name of null. -/
theorem evaluate_render_of_readsBack {value : Value} (readsBack : value.ReadsBack) :
    ∃ bound, ∀ depth > bound, ∀ world,
      (.null ∈ value.parts ∧ (evaluate depth value.render world).outcome =
          .faulty [.evaluation (.unknownIdentifier "null")]) ∨
        (.null ∉ value.parts ∧ ∃ other,
          (evaluate depth value.render world).outcome = .value other ∧ value.equals other) := by
  obtain ⟨tree, read, echoed⟩ := readsBack
  refine ⟨tree.height, ?_⟩
  intro depth enough world
  obtain ⟨depth, rfl⟩ := Nat.exists_eq_succ_of_ne_zero (Nat.ne_zero_of_lt enough)
  obtain ⟨context, machine, empty, outcome⟩ := evaluate_of_readsAs read world
  rw [Nat.succ_eq_add_one, outcome depth]
  cases echoed depth context machine (Nat.le_of_lt_succ enough) empty with
  | unbound isNull failed => exact .inl ⟨isNull, by rw [failed]; rfl⟩
  | result noNull evaluated equal => exact .inr ⟨noNull, _, by rw [evaluated]; rfl, equal⟩

/-- A value without functions that some source comes to is printed as a text that comes to
an equal value, if and only if the value contains neither null nor the lowest number. With
the lowest number in it the text has syntax errors; with null and without the lowest
number the name of null is not found. -/
theorem evaluate_render {depth : Nat} {source : String} {world : World} {value : Value}
    (evaluated : (evaluate depth source world).outcome = .value value)
    (noFunction : ∀ closure, .function closure ∉ value.parts) :
    ∃ bound, ∀ depth > bound, ∀ world,
      ((∃ other, (evaluate depth value.render world).outcome = .value other ∧
          value.equals other) ↔
        .null ∉ value.parts ∧ .integer .lowest ∉ value.parts) ∧
      (.integer .lowest ∈ value.parts →
        ∃ diagnostics, (evaluate depth value.render world).outcome = .faulty diagnostics ∧
          diagnostics ≠ [] ∧ ∀ diagnostic ∈ diagnostics, diagnostic.kind = .parse) ∧
      (.integer .lowest ∉ value.parts → .null ∈ value.parts →
        ∃ diagnostic, (evaluate depth value.render world).outcome = .faulty [diagnostic] ∧
          diagnostic.kind = .eval ∧ diagnostic.message = "identifier not found: null") := by
  have printable := printable_of_evaluate evaluated noFunction
  by_cases lowest : .integer .lowest ∈ value.parts
  · refine ⟨0, fun depth _ world => ?_⟩
    obtain ⟨diagnostics, outcome, faulty⟩ := evaluate_render_of_lowest printable lowest depth world
    refine ⟨⟨?_, fun neither => absurd lowest neither.2⟩, fun _ => ⟨_, outcome, faulty⟩,
      fun absent => absurd lowest absent⟩
    rintro ⟨other, same, -⟩
    cases outcome.symm.trans same
  · obtain ⟨bound, ends⟩ := evaluate_render_of_readsBack (value.readsBack printable lowest)
    refine ⟨bound, fun depth enough world => ?_⟩
    rcases ends depth enough world with ⟨isNull, outcome⟩ | ⟨noNull, other, outcome, equal⟩
    · refine ⟨⟨?_, fun neither => absurd isNull neither.1⟩, fun present => absurd present lowest,
        fun _ _ => ⟨_, outcome, rfl, rfl⟩⟩
      rintro ⟨other, same, -⟩
      cases outcome.symm.trans same
    · exact ⟨⟨fun _ => ⟨noNull, lowest⟩, fun _ => ⟨other, outcome, equal⟩⟩,
        fun present => absurd present lowest, fun _ isNull => absurd isNull noNull⟩

/-- A hash whose entries are not in the order of their texts. -/
def unsortedHash : Value :=
  .hash [(.string "b", .integer ⟨-1, by decide, by decide⟩), (.string "a", .boolean true)]

theorem evaluate_render_unsortedHash :
    (evaluate 5 "\x7b\"b\": 0 - 1, \"a\": true\x7d" .empty).outcome = .value unsortedHash ∧
      unsortedHash.render = "\x7b\"a\": true, \"b\": -1\x7d" ∧
      ∃ bound, ∀ depth > bound, ∀ world, ∃ other,
        (evaluate depth "\x7b\"a\": true, \"b\": -1\x7d" world).outcome = .value other ∧
          unsortedHash.equals other := by
  have number {digits : String} (value : Integer) {tier : Tier}
      (denoted : value.toInt = (Nat.ofDigitChars 10 digits.toList 0 : Nat)) :
      Derives (.expression tier) [.integer digits] (.integer value) :=
    (Derives.integer denoted).looser tier.rank_le
  have text (content : String) : Derives (.expression .equality) [.string content] _ :=
    (Derives.string content).looser (by decide)
  have difference : Derives (.expression .equality)
      [.integer "0", .symbol .minus, .integer "1"] _ :=
    (Derives.binary .subtract (number .zero (by decide +kernel))
      (number ⟨1, by decide, by decide⟩ (by decide +kernel))).looser (by decide)
  have truth : Derives (.expression .equality) _ _ := Derives.trueWord.looser (by decide)
  have literal := Derives.hash (.moreItems (.listedPair (text "b") difference)
    (.lastItem (.listedPair (text "a") truth)))
  have parsed : (Parsing.ofSource "\x7b\"b\": 0 - 1, \"a\": true\x7d").result = _ :=
    Parsing.result_of_derives (by decide +kernel) (.lastExpression (literal.looser (by decide)))
  have outcome : (evaluate 5 "\x7b\"b\": 0 - 1, \"a\": true\x7d" .empty).outcome =
      .value unsortedHash :=
    (evaluateWith_of_ok .silent 5 _ _ () parsed).1
  have ordered : sorted ["\"b\": -1", "\"a\": true"] = ["\"a\": true", "\"b\": -1"] := by
    have after : ¬"\"b\": -1" ≤ "\"a\": true" := by decide +kernel
    simp [sorted, List.mergeSort, List.MergeSort.Internal.splitInTwo, after]
  have printed : unsortedHash.render = "\x7b\"a\": true, \"b\": -1\x7d" :=
    congrArg (fun texts => inBraces (joined ", " texts)) ordered
  have noFunction : ∀ closure, .function closure ∉ unsortedHash.parts := by
    simp [unsortedHash, Value.parts, Value.partsEntries, Key.toValue]
  have neither : .null ∉ unsortedHash.parts ∧ .integer .lowest ∉ unsortedHash.parts := by
    simp [unsortedHash, Value.parts, Value.partsEntries, Key.toValue, Integer.lowest, integerBound]
  obtain ⟨bound, ends⟩ := evaluate_render outcome noFunction
  refine ⟨outcome, printed, bound, fun depth enough world => ?_⟩
  rw [← printed]
  exact (ends depth enough world).1.mpr neither

end Ember
