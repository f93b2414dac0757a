import Ember.Proofs.Parser.Congruence

/-!
# The recursion of expressions

A bound on the nesting that is at least the number of tokens does not matter. So
the parser for expressions is the fixed point of its own production, and every
congruence of parsers relates it to itself.
-/

namespace Ember.Parser

/-- Two parsers agree on all cursors with no more tokens than the bound. -/
def Agree (bound : Nat) (α : Type) (left right : Parser α) : Prop :=
  ∀ cursor : Cursor, cursor.tokens.length ≤ bound → left cursor = right cursor

/-- Two parsers agree on such cursors, if their tokens are within reach. -/
def AgreeOn (reach : List Token → Prop) (bound : Nat) (α : Type) (left right : Parser α) : Prop :=
  ∀ cursor : Cursor, reach cursor.tokens → cursor.tokens.length ≤ bound →
    left cursor = right cursor

theorem agree_eq_agreeOn : Agree = AgreeOn fun _ => True := by
  funext bound α left right
  simp [Agree, AgreeOn]

section AgreeOn

variable {reach : List Token → Prop}
variable (onward : ∀ tokens count, reach tokens → reach (tokens.drop count))

include onward

theorem respects_agreeOn : Respects Eq (fun _ => True) (AgreeOn reach) where
  alike_kind same := congrArg Token.kind same
  free_of_isPlain _ := trivial
  mono less agree cursor reached few := agree cursor reached (Nat.le_trans few less)
  pure _ _ _ _ := rfl
  bind := by
    intro bound α β left right leftNext rightNext agree nextAgree cursor reached few
    rw [bind_apply, bind_apply, agree cursor reached few]
    rcases right cursor with ⟨_ | value, consumed, openBraces⟩
    · rfl
    · have fewer : (cursor.after consumed openBraces).tokens.length ≤ bound := by
        simp only [Cursor.tokens_after, List.length_drop]
        omega
      simp only [nextAgree value _ (onward _ consumed reached) fewer]
  look := by
    intro bound α leftNext rightNext agree cursor reached few
    rw [peek_bind_apply, peek_bind_apply]
    exact agree _ _ rfl cursor reached few
  unexpected := by
    rintro bound α expected left right rfl cursor _ few
    rfl
  missingOperand := by
    rintro bound α left right rfl cursor _ few
    rfl
  tooLarge := by
    rintro bound α digits left right rfl cursor _ few
    rfl
  expect := by
    intro bound α kind left right _ proper agree cursor reached few
    by_cases fits : (Token.next cursor.tokens).kind = kind
    · rcases exists_cons_of_next fits proper with ⟨token, rest, remaining, _⟩
      rw [remaining, List.length_cons] at few
      have behind := agree rest.length (by omega) (cursor.after 1 cursor.openBraces)
        (onward _ 1 reached) (by simp [remaining])
      rw [expect_bind_of_eq fits, expect_bind_of_eq fits, advance_bind_apply, advance_bind_apply,
        behind]
    · rw [expect_bind_of_ne fits, expect_bind_of_ne fits]

theorem congruence_agreeOn : Congruence Eq (fun _ => True) (AgreeOn reach) where
  toRespects := respects_agreeOn onward
  braces kinds elements := by
    refine (respects_agreeOn onward).braced (fun _ => trivial) (fun _ _ _ _ => rfl)
      (fun _ _ _ _ => rfl) ?_ elements
    rcases kinds with rfl | rfl <;> decide

end AgreeOn

theorem congruence_agree : Congruence Eq (fun _ => True) Agree := by
  rw [agree_eq_agreeOn]
  exact congruence_agreeOn fun _ _ _ => trivial

theorem expressionWith_nil (inner : Precedence → Parser Expr) (minimum : Precedence)
    (openBraces : Nat) :
    expressionWith inner minimum ⟨[], openBraces⟩ =
      ⟨.error (.missingOperand .emptyEnd), 0, openBraces⟩ := rfl

/-- Without tokens there is no operand, whatever the bound. -/
theorem expressionUpTo_nil (depth : Nat) (minimum : Precedence) (openBraces : Nat) :
    expressionUpTo depth minimum ⟨[], openBraces⟩ =
      ⟨.error (.missingOperand .emptyEnd), 0, openBraces⟩ := by
  cases depth with
  | zero => rfl
  | succ depth => exact expressionWith_nil _ minimum openBraces

/-- Bounds that are at least the number of tokens give the same replies. -/
theorem agree_expressionUpTo (bound : Nat) (minimum : Precedence) {left right : Nat}
    (leftAmple : bound ≤ left) (rightAmple : bound ≤ right) :
    Agree bound Expr (expressionUpTo left minimum) (expressionUpTo right minimum) := by
  induction bound generalizing minimum left right with
  | zero =>
      intro cursor few
      rcases cursor with ⟨tokens, openBraces⟩
      obtain rfl : tokens = [] := List.eq_nil_of_length_eq_zero (Nat.le_zero.mp few)
      rw [expressionUpTo_nil, expressionUpTo_nil]
  | succ bound ih =>
      obtain ⟨left, rfl⟩ : ∃ smaller, left = smaller + 1 := ⟨left - 1, by omega⟩
      obtain ⟨right, rfl⟩ : ∃ smaller, right = smaller + 1 := ⟨right - 1, by omega⟩
      rw [expressionUpTo, expressionUpTo]
      refine congruence_agree.expressionWith (fun smaller less inner => ?_) minimum
      exact congruence_agree.mono (Nat.le_of_lt_succ less)
        (ih inner (Nat.le_of_succ_le_succ leftAmple) (Nat.le_of_succ_le_succ rightAmple))

/-- An expression is an operand with all that extends it, where inner expressions
are expressions again. -/
theorem expression_eq (minimum : Precedence) :
    expression minimum = expressionWith expression minimum := by
  funext cursor
  rcases cursor with ⟨tokens, openBraces⟩
  cases tokens with
  | nil => rfl
  | cons token rest =>
      rw [expression, List.length_cons, expressionUpTo]
      have inside : ∀ smaller < rest.length + 1, ∀ minimum,
          Agree smaller Expr (expressionUpTo rest.length minimum) (expression minimum) := by
        intro smaller less minimum cursor few
        rw [expression]
        exact agree_expressionUpTo cursor.tokens.length minimum
          (Nat.le_trans few (Nat.le_of_lt_succ less)) (Nat.le_refl _) cursor (Nat.le_refl _)
      exact congruence_agree.expressionWith inside minimum _ (Nat.le_refl _)

namespace Congruence

variable {alike : Token → Token → Prop} {free : TokenKind → Prop}
variable {related : Nat → (α : Type) → Parser α → Parser α → Prop}

/-- A congruence relates the parser for expressions to itself. -/
theorem expression (congruence : Congruence alike free related) (bound : Nat)
    (minimum : Precedence) :
    related bound Expr (Parser.expression minimum) (Parser.expression minimum) := by
  induction bound using Nat.strongRecOn generalizing minimum with
  | ind bound ih =>
      rw [expression_eq]
      exact congruence.expressionWith ih minimum

/-- A congruence relates the parser for statements to itself. -/
theorem statement (congruence : Congruence alike free related) (bound : Nat) :
    related bound Stmt Parser.statement Parser.statement :=
  congruence.statementWith fun minimum => congruence.expression bound minimum

end Congruence

end Ember.Parser
