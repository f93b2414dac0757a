import Ember.Proofs.Parser.Clause

/-!
# Errors on legal tokens

An error is a lexical one only if it blames an illegal token, and every token that an
error blames is one of those that were parsed. So where no token is illegal, no error
is lexical.
-/

namespace Ember

/-- A token that is not illegal. -/
def Token.Legal (token : Token) : Prop :=
  ∀ fault, token.kind ≠ .illegal fault

theorem Token.legal_next {tokens : List Token} (legal : ∀ token ∈ tokens, token.Legal) :
    (Token.next tokens).Legal := by
  cases tokens with
  | nil => nofun
  | cons token rest => exact legal token List.mem_cons_self

namespace SyntaxError

theorem isLexical_unexpected (expected : Expectation) {token : Token} (legal : token.Legal) :
    (unexpected expected token).isLexical = false := by
  unfold unexpected
  split
  · next fault kind => exact absurd kind (legal fault)
  · rfl
  · rfl

theorem isLexical_missingOperand {token : Token} (legal : token.Legal) :
    (missingOperand token).isLexical = false := by
  unfold missingOperand
  split
  · next fault kind => exact absurd kind (legal fault)
  · rfl
  · rfl

end SyntaxError

namespace Parser

/-- On no more legal tokens than the bound, a parser gives no lexical error. The other
parser has no part in it. -/
def FailsLegally (bound : Nat) (α : Type) (parser _other : Parser α) : Prop :=
  ∀ cursor : Cursor, cursor.tokens.length ≤ bound → (∀ token ∈ cursor.tokens, token.Legal) →
    ∀ error, (parser cursor).result = .error error → error.isLexical = false

theorem respects_failsLegally :
    Respects (fun left right => left = right ∧ left.Legal) (fun _ => True) FailsLegally where
  alike_kind same := congrArg Token.kind same.1
  free_of_isPlain _ := trivial
  mono less fails cursor few := fails cursor (Nat.le_trans few less)
  pure _ _ _ _ _ impossible := nomatch impossible
  bind := by
    intro bound α β parser _ next _ fails nextFails cursor few legal error failed
    have first := fails cursor few legal
    rw [bind_apply] at failed
    generalize parser cursor = reply at first failed
    rcases reply with ⟨_ | value, consumed, openBraces⟩
    · cases failed
      exact first error rfl
    · have fewer : (cursor.after consumed openBraces).tokens.length ≤ bound := by
        simp only [Cursor.tokens_after, List.length_drop]
        omega
      exact nextFails value _ fewer (fun token member => legal token (List.mem_of_mem_drop member))
        error failed
  look := by
    intro bound α next _ fails cursor few legal error failed
    rw [peek_bind_apply] at failed
    exact fails _ _ ⟨rfl, Token.legal_next legal⟩ cursor few legal error failed
  unexpected := by
    rintro bound α expected left _ ⟨rfl, legal⟩ cursor few _ error failed
    cases failed
    exact SyntaxError.isLexical_unexpected expected legal
  missingOperand := by
    rintro bound α left _ ⟨rfl, legal⟩ cursor few _ error failed
    cases failed
    exact SyntaxError.isLexical_missingOperand legal
  tooLarge := by
    rintro bound α digits left _ ⟨rfl, legal⟩ cursor few _ error failed
    cases failed
    rfl
  expect := by
    intro bound α kind parser _ _ proper fails cursor few legal error failed
    by_cases fits : (Token.next cursor.tokens).kind = kind
    · rcases exists_cons_of_next fits proper with ⟨token, rest, remaining, _⟩
      rw [remaining, List.length_cons] at few
      rw [expect_bind_of_eq fits, advance_bind_apply] at failed
      refine fails rest.length (by omega) (cursor.after 1 cursor.openBraces) (by simp [remaining])
        ?_ error failed
      intro token member
      exact legal token (List.mem_of_mem_drop member)
    · rw [expect_bind_of_ne fits] at failed
      cases failed
      exact SyntaxError.isLexical_unexpected _ (Token.legal_next legal)

theorem congruence_failsLegally :
    Congruence (fun left right => left = right ∧ left.Legal) (fun _ => True) FailsLegally where
  toRespects := respects_failsLegally
  braces kinds elements := by
    refine respects_failsLegally.braced (fun _ => trivial)
      (fun _ _ _ _ _ impossible => nomatch impossible)
      (fun _ _ _ _ _ impossible => nomatch impossible) ?_ elements
    rcases kinds with rfl | rfl <;> decide

end Parser

namespace Parsing

theorem isLexical_error_read {tokens : List Token} (legal : ∀ token ∈ tokens, token.Legal)
    {error : SyntaxError} (failed : error ∈ (Clause.read tokens).error) :
    error.isLexical = false := by
  have fails := Parser.congruence_failsLegally.statement tokens.length tokens (Nat.le_refl _) legal
  rw [Clause.read] at failed
  generalize Parser.statement _ = reply at fails failed
  rcases reply with ⟨_ | statement, consumed, openBraces⟩
  · cases failed
    exact fails _ rfl
  · dsimp only at failed
    split at failed
    · cases failed
    · split at failed
      · cases failed
      · cases failed
        apply SyntaxError.isLexical_unexpected
        apply Token.legal_next
        intro token member
        exact legal token (List.mem_of_mem_drop member)

/-- Where no token is illegal, no error is lexical. -/
theorem isLexical_errors {tokens : List Token} (legal : ∀ token ∈ tokens, token.Legal) :
    ∀ error ∈ (ofTokens tokens).errors, error.isLexical = false := by
  induction tokens using Clause.induct with
  | atEnd tokens ended =>
      rw [ofTokens_of_isEnd ended]
      exact List.forall_mem_nil _
  | clause tokens goesOn ih =>
      rw [errors_ofTokens goesOn]
      intro error member
      rcases List.mem_append.mp member with first | later
      · exact isLexical_error_read legal (Option.mem_toList.mp first)
      · refine ih ?_ error later
        intro other inside
        exact legal other (List.mem_of_mem_drop inside)

end Parsing

end Ember
