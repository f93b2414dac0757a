import Ember.Proofs.Grammar.Completeness
import Ember.Proofs.Parser.Walk

/-!
# Levels of precedence

An expression above a strong minimum is the beginning of the expression above a weaker
one: what binds too weakly for the strong minimum is left, and the loop that extends an
operand can be taken up again there. So the levels nest, also those that no production
asks for.
-/

namespace Ember

/-- A token that binds more strongly than a minimum announces a continuation. -/
theorem TokenKind.exists_continuation {kind : TokenKind} {minimum : Precedence}
    (strong : ¬ kind.precedence ≤ minimum) :
    ∃ next, Continuation.ofKind? kind = some next ∧ ¬ next.precedence ≤ minimum := by
  rw [TokenKind.precedence] at strong
  cases announced : Continuation.ofKind? kind with
  | none =>
      rw [announced] at strong
      exact absurd (Nat.zero_le _) strong
  | some next =>
      rw [announced] at strong
      exact ⟨next, rfl, strong⟩

namespace Parser

/-- Extending an operand above a minimum, and then what came of it above a weaker one, is
extending it above the weaker one. -/
theorem extend_bind_extend (inner : Precedence → Parser Expr) {low high : Precedence}
    (below : low ≤ high) (left : Expr) :
    extend inner high left >>= extend inner low = extend inner low left := by
  funext cursor
  induction length : cursor.tokens.length using Nat.strongRecOn generalizing left cursor with
  | _ size ih =>
      by_cases weak : (Token.next cursor.tokens).kind.precedence ≤ high
      · -- The first loop stops before this token, and the second one decides about it.
        have stopped : Takes (extend inner high left) cursor [] left cursor :=
          takes_extend_of_le weak left
        simpa using (stopped.reaches (extend inner low)).reply
      · obtain ⟨next, announced, strong⟩ := TokenKind.exists_continuation weak
        have stronger : ¬ next.precedence ≤ low :=
          fun weaker => strong (Precedence.le_trans weaker below)
        rcases cursor with ⟨_ | ⟨token, rest⟩, openBraces⟩
        · cases announced
        · rw [Token.next_cons] at announced
          -- Both loops take this token, and the continuation that it announces.
          have round {minimum : Precedence} (weaker : ¬ next.precedence ≤ minimum) :
              Reaches (extend inner minimum left) ⟨token :: rest, openBraces⟩ [token]
                (continuation inner left next >>= extend inner minimum) ⟨rest, openBraces⟩ :=
            reaches_continuation announced weaker
          rw [((round strong).bind (extend inner low)).reply, (round stronger).reply, bind_assoc]
          congr 1
          rw [bind_apply, bind_apply]
          rcases continuation inner left next ⟨rest, openBraces⟩ with
            ⟨_ | extended, consumed, stillOpen⟩
          · rfl
          · have fewer : ((Cursor.mk rest openBraces).after consumed stillOpen).tokens.length <
                size := by
              simp only [← length, Cursor.tokens_after, List.length_drop, List.length_cons]
              omega
            dsimp only
            rw [ih _ fewer extended _ rfl]

/-- An expression above a weak minimum is one above a stronger minimum, extended above the
weak one. -/
theorem expression_bind_extend {low high : Precedence} (below : low ≤ high) :
    expression high >>= extend expression low = expression low := by
  rw [expression_eq high, expression_eq low, expressionWith, expressionWith, bind_assoc]
  simp only [extend_bind_extend expression below]

/-- The levels of precedence nest. An expression above a weak minimum is read as one above a
stronger minimum, and then by the loop that extends it above the weak one: with the same
tree, the same tokens consumed and the same count of braces. Where there is no expression
above the stronger minimum, there is none above the weak one, for the same error at the same
place. Where there is one, the token behind it binds no more strongly than the minimum. -/
theorem expression_levels_nest {low high : Precedence} (below : low ≤ high) (cursor : Cursor) :
    expression low cursor = (expression high >>= extend expression low) cursor ∧
    (∀ error consumed openBraces,
      expression high cursor = ⟨.error error, consumed, openBraces⟩ →
        expression low cursor = ⟨.error error, consumed, openBraces⟩) ∧
    ∀ tree consumed openBraces, expression high cursor = ⟨.ok tree, consumed, openBraces⟩ →
      (Token.next (cursor.tokens.drop consumed)).kind.precedence ≤ high ∧
        expression low cursor =
          (extend expression low tree (cursor.after consumed openBraces)).behind consumed := by
  have nested : expression low cursor = (expression high >>= extend expression low) cursor := by
    rw [expression_bind_extend below]
  refine ⟨nested, ?_, ?_⟩
  · intro error consumed openBraces failed
    rw [nested, bind_apply, failed]
  · intro tree consumed openBraces succeeded
    have walk := (walks_expression high cursor).walk
    rw [succeeded] at walk
    have run := Takes.of_reply succeeded walk.length_le
    refine ⟨(sound_expression run).2, ?_⟩
    rw [nested, bind_apply, succeeded]
    rfl

/-- Above the strength of a sum, `a * b + c` is read up to the plus sign; above the lowest
minimum the rest is read as an extension of that. -/
theorem expression_levels_nest_sum :
    let tokens : List Token :=
      [⟨.identifier "a", 1, 0, 1⟩, ⟨.symbol .asterisk, 1, 2, 3⟩, ⟨.identifier "b", 1, 4, 5⟩]
    let rest : List Token :=
      [⟨.symbol .plus, 1, 6, 7⟩, ⟨.identifier "c", 1, 8, 9⟩, ⟨.endOfInput, 1, 9, 9⟩]
    let product : Expr := .binary .multiply (.identifier "a") (.identifier "b")
    Precedence.lowest ≤ Precedence.sum ∧
      expression .sum ⟨tokens ++ rest, 0⟩ = ⟨.ok product, 3, 0⟩ ∧
      expression .lowest ⟨tokens ++ rest, 0⟩ =
        (extend expression .lowest product ⟨rest, 0⟩).behind 3 := by
  intro tokens rest product
  have name (found : String) {tier : Grammar.Tier} :
      Grammar.Derives (.expression tier) [.identifier found] (.identifier found) :=
    (Grammar.Derives.identifier found).looser tier.rank_le
  have derivation := Grammar.Derives.binary .multiply (name "a") (name "b")
  have stops : Stops .sum rest := ⟨by decide, by decide⟩
  have run : Takes (expression .sum) ⟨tokens ++ rest, 0⟩ tokens product ⟨rest, 0⟩ :=
    derivation.reads.taken (by decide) rfl stops
  have nested := expression_levels_nest (by decide : Precedence.lowest ≤ .sum) ⟨tokens ++ rest, 0⟩
  exact ⟨by decide, run.reply_eq, (nested.2.2 _ _ _ run.reply_eq).2⟩

end Parser

end Ember
