import Ember.Proofs.Parser.Legal
import Ember.Proofs.Syntax.Reading
import Ember.Proofs.Syntax.Sequence
import Ember.Proofs.Value.Parts
import Ember.Value.Printer

/-!
# The tokens of printed values

The text of a value without functions is a row of legal tokens, as long as no string in
it contains a quote. A number is printed with its sign in front of its magnitude, so
the lowest number leaves behind a numeral that is outside of the range.
-/

namespace Ember

open Text (joined sorted)

/-- The lowest number, whose magnitude is outside of the range. -/
def Integer.lowest : Integer := ⟨-integerBound, by decide, by decide⟩

/-- What must hold of a single part of a value for its text to be read back. -/
def Value.Printable : Value → Prop
  | .string content => '"' ∉ content.toList
  | .hash entries => (Bindings.keys entries).Nodup
  | .function _ => False
  | .integer _ | .boolean _ | .array _ | .null => True

theorem Key.render_toValue (key : Key) : key.toValue.render = key.render := by
  cases key <;> rfl

/-- The entries of a hash are printed in some order. -/
theorem Value.exists_render_hash (entries : List (Key × Value)) :
    ∃ items : List (Key × Value), items.Perm entries ∧ (Value.hash entries).render =
      inBraces (joined ", "
        (items.map fun item => item.1.toValue.render ++ ": " ++ item.2.render)) := by
  let text (item : Key × Value) : String := item.1.render ++ ": " ++ item.2.render
  let before (first second : Key × Value) : Bool := decide (text first ≤ text second)
  refine ⟨entries.mergeSort before, List.mergeSort_perm entries before, ?_⟩
  have ordered : (entries.mergeSort before).map text = sorted (entries.map text) :=
    List.map_mergeSort fun _ _ _ _ => rfl
  simp only [Key.render_toValue]
  change inBraces (joined ", " (sorted (Value.renderEntries entries))) =
    inBraces (joined ", " ((entries.mergeSort before).map text))
  rw [Value.renderEntries_eq_map, ordered]

/-- Besides the commas, a list has the tokens of its items. -/
theorem mem_listed {α : Type} {spelling : α → List TokenKind} {items : List α} {kind : TokenKind}
    (noComma : kind ≠ .symbol .comma) :
    kind ∈ listed (items.map spelling) ↔ ∃ item ∈ items, kind ∈ spelling item := by
  induction items with
  | nil => simp [listed]
  | cons item rest ih =>
      cases rest with
      | nil => simp [listed]
      | cons next others =>
          rw [List.map_cons, List.map_cons, listed, ← List.map_cons, List.mem_append,
            List.mem_cons, ih]
          simp [noComma]

/-- A text of legal tokens, with a numeral outside of the range if the lowest number is
among the parts. -/
def Value.Spelled (value : Value) : Prop :=
  ∃ kinds, Spells EndsWord value.render kinds ∧ (∀ fault, .illegal fault ∉ kinds) ∧
    (.integer .lowest ∈ value.parts → .integer (toString integerBound) ∈ kinds)

namespace Value.Spelled

theorem integer (value : Integer) : (Value.integer value).Spelled := by
  by_cases negative : value.toInt < 0
  · have digits := Spells.digits value.toInt.natAbs
    refine ⟨[.symbol .minus, .integer value.toInt.natAbs.repr], ?_, by simp, ?_⟩
    · rw [Value.render, Integer.render_of_neg negative]
      exact digits.opened .minus fun _ => trivial
    · intro lowest
      obtain rfl : .lowest = value := by simpa [Value.parts] using lowest
      exact List.mem_cons_of_mem _ (List.mem_singleton.mpr rfl)
  · refine ⟨_, .integer (Int.not_lt.mp negative), by simp, ?_⟩
    intro lowest
    obtain rfl : .lowest = value := by simpa [Value.parts] using lowest
    exact absurd (by decide) negative

theorem boolean (value : Bool) : (Value.boolean value).Spelled := by
  cases value with
  | true => exact ⟨_, .keyword .trueWord, by simp, by simp [Value.parts]⟩
  | false => exact ⟨_, .keyword .falseWord, by simp, by simp [Value.parts]⟩

theorem string {content : String} (closed : '"' ∉ content.toList) :
    (Value.string content).Spelled :=
  ⟨_, .string closed, by simp, by simp [Value.parts]⟩

theorem null : Value.null.Spelled :=
  ⟨_, .name (by decide +kernel), by simp, by simp [Value.parts]⟩

theorem key {key : Key} (printable : key.toValue.Printable) : key.toValue.Spelled := by
  cases key with
  | integer value => exact .integer value
  | boolean value => exact .boolean value
  | string content => exact .string printable

theorem array {elements : List Value} (each : ∀ element ∈ elements, element.Spelled) :
    (Value.array elements).Spelled := by
  choose! kinds spelled legal large using each
  rw [Value.Spelled, Value.render, Value.renderAll_eq_map]
  refine ⟨_, .array spelled, ?_, ?_⟩
  · intro fault
    simpa [mem_listed] using fun element member => legal element member fault
  · intro lowest
    obtain whole | ⟨element, member, inside⟩ := Value.mem_parts_array.mp lowest
    · cases whole
    · simpa [mem_listed] using ⟨element, member, large element member inside⟩

theorem hash {entries : List (Key × Value)}
    (keys : ∀ entry ∈ entries, entry.1.toValue.Spelled)
    (values : ∀ entry ∈ entries, entry.2.Spelled) : (Value.hash entries).Spelled := by
  obtain ⟨items, same, text⟩ := Value.exists_render_hash entries
  choose! keyKinds keySpelled keyLegal keyLarge using keys
  choose! valueKinds valueSpelled valueLegal valueLarge using values
  rw [Value.Spelled, text]
  refine ⟨_, .hash (fun item member => keySpelled item (same.subset member))
    (fun item member => valueSpelled item (same.subset member)), ?_, ?_⟩
  · intro fault
    have each : ∀ entry ∈ entries,
        .illegal fault ∉ keyKinds entry ∧ .illegal fault ∉ valueKinds entry :=
      fun entry member => ⟨keyLegal entry member fault, valueLegal entry member fault⟩
    simpa [mem_listed, same.mem_iff] using each
  · intro lowest
    obtain whole | ⟨entry, member, inside⟩ := Value.mem_parts_hash.mp lowest
    · cases whole
    · have found : .integer (toString integerBound) ∈ keyKinds entry ∨
          .integer (toString integerBound) ∈ valueKinds entry := by
        rcases inside with isKey | inside
        · exact .inl (keyLarge entry member (by simp [isKey]))
        · exact .inr (valueLarge entry member inside)
      simpa [mem_listed, same.mem_iff, -Prod.exists] using ⟨entry, member, found⟩

end Value.Spelled

/-- The text of a value without functions is a row of legal tokens. -/
theorem Value.spelled {value : Value} (printable : ∀ part ∈ value.parts, part.Printable) :
    value.Spelled := by
  induction value using Value.induct with
  | integer value => exact .integer value
  | boolean value => exact .boolean value
  | string content => exact .string (printable _ List.mem_cons_self)
  | null => exact .null
  | function closure => exact (printable _ List.mem_cons_self).elim
  | array elements ih =>
      obtain ⟨-, each⟩ := Value.forall_parts_array.mp printable
      exact .array fun element member => ih element member (each element member)
  | hash entries ih =>
      obtain ⟨-, each⟩ := Value.forall_parts_hash.mp printable
      exact .hash (fun entry member => .key (each entry member).1)
        fun entry member => ih entry member (each entry member).2

/-- A source of legal tokens with a numeral outside of the range has errors, none of
which is lexical. -/
theorem Parsing.errors_of_large {source : String} {kinds : List TokenKind}
    (spelled : Spells EndsWord source kinds) (legal : ∀ fault, .illegal fault ∉ kinds)
    {digits : String} (large : Integer.ofDigits? digits = none)
    (member : .integer digits ∈ kinds) :
    ∃ errors, (ofSource source).result = .error errors ∧ errors ≠ [] ∧
      ∀ error ∈ errors, error.isLexical = false := by
  have lexed : lexKinds source.toList = kinds ++ [.endOfInput] := by
    simpa using spelled [] nofun
  have legalTokens : ∀ token ∈ lex source, token.Legal := by
    intro token inside fault illegal
    have found : .illegal fault ∈ lexKinds source.toList := illegal ▸ List.mem_map_of_mem inside
    exact legal fault (by simpa [lexed] using found)
  cases errors : (ofSource source).errors with
  | nil =>
      have parsed := result_eq_ok_iff.mpr ⟨errors, rfl⟩
      have same : kinds = sourceKinds source :=
        List.append_cancel_right (lexed.symm.trans (lexKinds_eq_append source))
      exact absurd (same ▸ member) ((result_ofSource_iff.mp parsed).large_notMem large)
  | cons first others =>
      refine ⟨first :: others, by rw [result, errors], nofun, ?_⟩
      rw [← errors]
      exact isLexical_errors legalTokens

/-- The text of a value with the lowest number in it is a source with errors, none of
which is lexical. -/
theorem Value.errors_render {value : Value} (printable : ∀ part ∈ value.parts, part.Printable)
    (lowest : .integer .lowest ∈ value.parts) :
    ∃ errors, (Parsing.ofSource value.render).result = .error errors ∧ errors ≠ [] ∧
      ∀ error ∈ errors, error.isLexical = false := by
  obtain ⟨kinds, spelled, legal, large⟩ := Value.spelled printable
  exact Parsing.errors_of_large spelled legal (by decide +kernel) (large lowest)

end Ember
