import Mathlib.Tactic.Choose
import Ember.Proofs.Syntax.RoundTrip

/-!
# Texts of expressions

A text is read as an expression if its tokens are some from which the grammar derives
that expression. The texts of compound expressions are put together from the texts of
their parts, as the productions of the grammar are; a part on a looser tier than its
place needs parentheses. No other form of the tree is asked for, so that trees can be
written in more than one way.
-/

namespace Ember

open Text (joined)
open Grammar (Tier Derives)

/-- Before every text that continues no word, a text is read as tokens from which an
expression on a tier is derived. -/
def ReadsAs (text : String) (tier : Tier) (tree : Expr) : Prop :=
  ∃ kinds, Spells EndsWord text kinds ∧ Derives (.expression tier) kinds tree

namespace ReadsAs

variable {text : String} {tier : Tier} {tree : Expr}

theorem looser (read : ReadsAs text tier tree) {target : Tier}
    (loose : target.rank ≤ tier.rank) : ReadsAs text target tree := by
  rcases read with ⟨kinds, spelled, derivation⟩
  exact ⟨kinds, spelled, derivation.looser loose⟩

theorem identifier {name : String} (free : isName name) :
    ReadsAs name .primary (.identifier name) :=
  ⟨_, .name free, .identifier name⟩

/-- A number that is not negative is read from its numeral. -/
theorem integer {value : Integer} (natural : 0 ≤ value.toInt) :
    ReadsAs value.render .primary (.integer value) :=
  ⟨_, .integer natural,
    .integer (Integer.ofDigits?_eq_some_iff.mp (Integer.ofDigits?_render natural))⟩

theorem string {content : String} (closed : '"' ∉ content.toList) :
    ReadsAs ("\"" ++ content ++ "\"") .primary (.string content) :=
  ⟨_, .string closed, .string content⟩

theorem boolean (value : Bool) : ReadsAs (renderBool value) .primary (.boolean value) := by
  cases value with
  | true => exact ⟨_, .keyword .trueWord, .trueWord⟩
  | false => exact ⟨_, .keyword .falseWord, .falseWord⟩

theorem grouped (read : ReadsAs text .equality tree) :
    ReadsAs ("(" ++ text ++ ")") .primary tree := by
  rcases read with ⟨kinds, spelled, derivation⟩
  exact ⟨_, (spelled.opened .leftParen fun _ => trivial).close .rightParen fun _ => trivial,
    .grouped derivation⟩

/-- The text of an operand continues no operator: no expression begins with `=`. -/
theorem unary (operator : UnaryOperator) (read : ReadsAs text .unary tree) :
    ReadsAs (operator.text ++ text) .unary (.unary operator tree) := by
  rcases read with ⟨kinds, spelled, derivation⟩
  have apart : ∀ rest, EndsWord rest → operator.symbol.Ends (text.toList ++ rest) := by
    intro rest ends
    rcases derivation.begins rfl with ⟨first, others, rfl, begins⟩
    cases operator with
    | negate => trivial
    | not => exact endsOperator_of_lexKinds (spelled rest ends) begins
  rw [← operator.text_symbol]
  exact ⟨_, (Spells.symbol operator.symbol).append spelled apart, .unary operator derivation⟩

theorem binary (operator : BinaryOperator) {leftText rightText : String} {left right : Expr}
    (leftRead : ReadsAs leftText operator.tier left)
    (rightRead : ReadsAs rightText operator.tier.tighter right) :
    ReadsAs (leftText ++ " " ++ operator.text ++ " " ++ rightText) operator.tier
      (.binary operator left right) := by
  rcases leftRead with ⟨leftKinds, leftSpelled, leftDerived⟩
  rcases rightRead with ⟨rightKinds, rightSpelled, rightDerived⟩
  have spaced : ∀ rest, True → operator.symbol.Ends (" ".toList ++ rest) := by
    intro rest _
    cases operator <;> trivial
  have before : Spells (fun _ => True) (leftText ++ " ") leftKinds := leftSpelled.spaced
  have operatorSpelled : Spells (fun _ => True) _ _ :=
    (before.append (Spells.symbol operator.symbol) fun _ _ => trivial).append Spells.space spaced
  have whole := operatorSpelled.append rightSpelled fun _ _ => trivial
  rw [operator.text_symbol] at whole
  exact ⟨_, whole.cast (by simp), .binary operator leftDerived rightDerived⟩

theorem array {α : Type} {render : α → String} {literal : α → Expr} {items : List α}
    (each : ∀ item ∈ items, ReadsAs (render item) .equality (literal item)) :
    ReadsAs ("[" ++ joined ", " (items.map render) ++ "]") .primary
      (.array (items.map literal)) := by
  choose! spelling spelled derived using each
  have elements : Derives (.list .expression) (listed (items.map spelling)) (items.map literal) :=
    derives_listed_map fun item member => .listedExpression (derived item member)
  exact ⟨_, .array spelled, .array elements⟩

/-- A hash literal, from the texts of its keys and of its values. -/
theorem hash {α : Type} {keyText valueText : α → String} {key value : α → Expr} {items : List α}
    (keys : ∀ item ∈ items, ReadsAs (keyText item) .equality (key item))
    (values : ∀ item ∈ items, ReadsAs (valueText item) .equality (value item)) :
    ReadsAs (inBraces (joined ", " (items.map fun item => keyText item ++ ": " ++ valueText item)))
      .primary (.hash (items.map fun item => (key item, value item))) := by
  choose! keySpelling keySpelled keyDerived using keys
  choose! valueSpelling valueSpelled valueDerived using values
  have listed : ∀ item ∈ items, Derives (.item .pair)
      (keySpelling item ++ .symbol .colon :: valueSpelling item) (key item, value item) :=
    fun item member => .listedPair (keyDerived item member) (valueDerived item member)
  exact ⟨_, .hash keySpelled valueSpelled, .hash (derives_listed_map listed)⟩

/-- A text that is read as an expression is a program of one statement. -/
theorem result_ofSource (read : ReadsAs text tier tree) :
    (Parsing.ofSource text).result = .ok [.expression tree] := by
  rcases read with ⟨kinds, spelled, derivation⟩
  have lexed := spelled [] nofun
  rw [List.append_nil, lexKinds_nil] at lexed
  exact Parsing.result_of_derives lexed (.lastExpression (derivation.looser (Nat.zero_le _)))

end ReadsAs

end Ember
