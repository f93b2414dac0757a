import Ember.Proofs.Parser.Recursion

/-!
# One token of lookahead

What a parser answers depends on the tokens that it consumes and on the one token
behind them, and on nothing that follows.
-/

namespace Ember

/-- Behind the same tokens, the next token is the same if it is so behind all of
them. -/
theorem Token.next_append {rest others : List Token} (taken : List Token)
    (same : Token.next rest = Token.next others) :
    Token.next (taken ++ rest) = Token.next (taken ++ others) := by
  cases taken with
  | nil => exact same
  | cons token taken => rfl

namespace Parser

/-- On no more tokens than the bound, a parser sees no further than the token behind
those that it consumes. The other parser has no part in it. -/
def SeesOneAhead (bound : Nat) (α : Type) (parser _other : Parser α) : Prop :=
  ∀ (taken rest others : List Token) (openBraces : Nat),
    (taken ++ rest).length ≤ bound → Token.next rest = Token.next others →
      (parser ⟨taken ++ rest, openBraces⟩).consumed = taken.length →
        parser ⟨taken ++ others, openBraces⟩ = parser ⟨taken ++ rest, openBraces⟩

theorem respects_seesOneAhead : Respects Eq (fun _ => True) SeesOneAhead where
  alike_kind same := congrArg Token.kind same
  free_of_isPlain _ := trivial
  mono less sees taken rest others openBraces few :=
    sees taken rest others openBraces (Nat.le_trans few less)
  pure _ _ _ _ _ _ _ _ := rfl
  bind := by
    intro bound α β parser _ next _ sees nextSees taken rest others openBraces few same all
    rw [bind_apply] at all ⊢
    rw [bind_apply]
    cases first : parser ⟨taken ++ rest, openBraces⟩ with
    | mk result consumed middle =>
        cases result with
        | error error =>
            rw [first] at all
            have again := sees taken rest others openBraces few same (by rw [first]; exact all)
            rw [again, first]
        | ok value =>
            rw [first] at all
            -- The first parser stops inside the tokens that both consume together.
            have within : consumed ≤ taken.length := Nat.le.intro all
            obtain ⟨before, behind, rfl, rfl⟩ :
                ∃ before behind, taken = before ++ behind ∧ consumed = before.length :=
              ⟨taken.take consumed, taken.drop consumed, (List.take_append_drop _ _).symm,
                (List.length_take_of_le within).symm⟩
            rw [List.append_assoc] at first few ⊢
            rw [List.append_assoc]
            have again := sees before (behind ++ rest) (behind ++ others) openBraces few
              (Token.next_append behind same) (by rw [first])
            rw [again, first]
            simp only [Cursor.after, List.append_assoc, List.drop_left, List.length_append,
              Nat.add_left_cancel_iff] at all ⊢
            rw [List.length_append] at few
            rw [nextSees value behind rest others middle (by omega) same all]
  look := by
    intro bound α next _ sees taken rest others openBraces few same all
    rw [peek_bind_apply] at all ⊢
    rw [peek_bind_apply, ← Token.next_append taken same]
    exact sees _ _ rfl taken rest others openBraces few same all
  unexpected _ _ _ _ _ _ _ _ _ _ _ := rfl
  missingOperand _ _ _ _ _ _ _ _ := rfl
  tooLarge _ _ _ _ _ _ _ _ _ _ _ := rfl
  expect := by
    intro bound α kind parser _ _ proper sees taken rest others openBraces few same all
    by_cases fits : (Token.next (taken ++ rest)).kind = kind
    · rw [expect_bind_of_eq fits, advance_bind_apply] at all
      cases taken with
      | nil => simp at all
      | cons token taken =>
          simp only [List.cons_append, List.length_cons] at few
          simp only [Cursor.after, List.cons_append, List.drop_succ_cons, List.drop_zero,
            List.length_cons] at all
          have behind := sees (taken ++ rest).length (by omega) taken rest others openBraces
            (Nat.le_refl _) same (by omega)
          rw [expect_bind_of_eq fits, expect_bind_of_eq fits, advance_bind_apply,
            advance_bind_apply]
          simp only [Cursor.after, List.cons_append, List.drop_succ_cons, List.drop_zero, behind]
    · have fitsNot := Token.next_append taken same ▸ fits
      rw [expect_bind_of_ne fitsNot, expect_bind_of_ne fits, Token.next_append taken same]

theorem congruence_seesOneAhead : Congruence Eq (fun _ => True) SeesOneAhead where
  toRespects := respects_seesOneAhead
  braces kinds elements := by
    refine respects_seesOneAhead.braced (fun _ => trivial) (fun _ _ _ _ _ _ _ _ => rfl)
      (fun _ _ _ _ _ _ _ _ => rfl) ?_ elements
    rcases kinds with rfl | rfl <;> decide

/-- A statement is read alike before all token lists that go on with the same
token. -/
theorem statement_append {taken rest others : List Token} {openBraces : Nat}
    (same : Token.next rest = Token.next others)
    (all : (statement ⟨taken ++ rest, openBraces⟩).consumed = taken.length) :
    statement ⟨taken ++ others, openBraces⟩ = statement ⟨taken ++ rest, openBraces⟩ :=
  congruence_seesOneAhead.statement _ taken rest others openBraces (Nat.le_refl _) same all

end Parser

end Ember
