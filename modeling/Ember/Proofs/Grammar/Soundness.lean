import Ember.Proofs.Grammar.Basic
import Ember.Proofs.Parser.Recursion
import Ember.Proofs.Parser.Run

/-!
# What the parser takes is derived

The tokens that an expression takes derive its tree, on the tier that belongs to
the minimum. While an operand is extended its tier only falls: the token behind
it never binds more strongly than the tier allows, since the operand would have
taken it otherwise.
-/

namespace Ember

open Grammar (Tier Item Nonterminal Derives)
open Parser (Takes)

/-- The tier of the expressions that are extended above a minimum. -/
def Precedence.above : Precedence → Tier
  | .lowest => .equality
  | .equality => .comparison
  | .comparison => .sum
  | .sum => .product
  | .product | .unary | .call | .index => .unary

/-- How strongly the token behind an expression of a tier may bind. -/
def Grammar.Tier.ceiling : Tier → Precedence
  | .equality => .equality
  | .comparison => .comparison
  | .sum => .sum
  | .product => .product
  | .unary => .unary
  | .suffixed | .primary => .index

theorem TokenKind.precedence_le_index (kind : TokenKind) : kind.precedence ≤ .index := by
  cases kind.precedence <;> decide

namespace Continuation

/-- The symbol that announces a continuation. -/
def symbol : Continuation → Symbol
  | .operation operator => operator.symbol
  | .call => .leftParen
  | .index => .leftBracket

/-- The tier of the expressions that end with a continuation. -/
def tier : Continuation → Tier
  | .operation operator => operator.tier
  | .call | .index => .suffixed

@[simp] theorem ofKind?_symbol (next : Continuation) :
    ofKind? (.symbol next.symbol) = some next := by
  cases next with
  | operation operator => cases operator <;> rfl
  | call => rfl
  | index => rfl

theorem kind_of_ofKind? {kind : TokenKind} {next : Continuation}
    (announced : ofKind? kind = some next) : kind = .symbol next.symbol := by
  unfold ofKind? at announced
  split at announced <;> first | (cases announced; rfl) | simp at announced

/-- A continuation that binds more strongly than the minimum stays above it. -/
theorem above_le_tier {next : Continuation} {minimum : Precedence}
    (strong : ¬ next.precedence ≤ minimum) : minimum.above.rank ≤ next.tier.rank := by
  revert strong
  cases next with
  | operation operator => cases operator <;> cases minimum <;> decide
  | call => cases minimum <;> decide
  | index => cases minimum <;> decide

/-- A continuation that may follow a tier is no tighter than the tier. -/
theorem tier_le_of_le_ceiling {next : Continuation} {tier : Tier}
    (weak : next.precedence ≤ tier.ceiling) : next.tier.rank ≤ tier.rank := by
  revert weak
  cases next with
  | operation operator => cases operator <;> cases tier <;> decide
  | call => cases tier <;> decide
  | index => cases tier <;> decide

end Continuation

@[simp] theorem BinaryOperator.above_precedence (operator : BinaryOperator) :
    operator.precedence.above = operator.tier.tighter := by
  cases operator <;> rfl

@[simp] theorem BinaryOperator.ceiling_tier (operator : BinaryOperator) :
    operator.tier.ceiling = operator.precedence := by
  cases operator <;> rfl

namespace Parser

/-- What the parsers for the inner expressions take is derived, and they leave no
token that they should have taken. -/
def Sound (inner : Precedence → Parser Expr) : Prop :=
  ∀ {minimum : Precedence} {cursor after : Cursor} {taken : List Token} {tree : Expr},
    Takes (inner minimum) cursor taken tree after →
      Derives (.expression minimum.above) (taken.map Token.kind) tree ∧
        (Token.next after.tokens).kind.precedence ≤ minimum

/-- What a parser takes is derived by a nonterminal. -/
def DerivedBy {α : Type} (parser : Parser α) (nonterminal : Nonterminal α) : Prop :=
  ∀ {cursor after : Cursor} {taken : List Token} {tree : α},
    Takes parser cursor taken tree after → Derives nonterminal (taken.map Token.kind) tree

theorem derivedBy_name : DerivedBy name (.item .name) := by
  intro cursor after taken tree run
  rcases run.of_name with ⟨token, kind, rfl⟩
  simpa [kind] using .listedName tree

/-- A sequence with commas is a list and the terminator behind it. -/
theorem derives_list {α : Type} {item : Item α} {element : Parser α} {terminator : TokenKind}
    (sound : DerivedBy element (.item item)) (proper : terminator ≠ .endOfInput)
    {cursor after : Cursor} {taken : List Token} {values : List α}
    (run : Takes (sequence element (.symbol .comma) terminator) cursor taken values after) :
    ∃ kinds, taken.map Token.kind = kinds ++ [terminator] ∧ Derives (.list item) kinds values := by
  induction length : taken.length using Nat.strongRecOn
    generalizing cursor taken values with
  | _ size ih =>
      rcases run.of_sequence (by simp) proper with
        ⟨closing, kind, rfl, rfl⟩ | ⟨first, value, middle, here, there⟩
      · exact ⟨[], by simp [kind], .noItems⟩
      · rcases there with
          ⟨mark, rest, others, kind, rfl, rfl, -, following⟩ | ⟨closing, kind, rfl, rfl, -⟩
        · have shorter : rest.length < size := by
            simp only [List.length_append, List.length_cons] at length
            omega
          rcases ih _ shorter following rfl with ⟨kinds, split, derivation⟩
          refine ⟨first.map Token.kind ++ .symbol .comma :: kinds, ?_, ?_⟩
          · simp [kind, split]
          · exact .moreItems (sound here) derivation
        · exact ⟨first.map Token.kind, by simp [kind], .lastItem (sound here)⟩

namespace Sound

variable {inner : Precedence → Parser Expr} {cursor after : Cursor} {taken : List Token}

/-- Behind the lowest minimum stands a whole expression. -/
theorem expression (sound : Sound inner) {tree : Expr}
    (run : Takes (inner .lowest) cursor taken tree after) :
    Derives (.expression .equality) (taken.map Token.kind) tree :=
  (sound run).1

theorem listedExpression (sound : Sound inner) :
    DerivedBy (inner .lowest) (.item .expression) :=
  fun run => .listedExpression (sound.expression run)

theorem pair (sound : Sound inner) : DerivedBy (pair inner) (.item .pair) := by
  intro cursor after taken tree run
  rcases run.of_bind with ⟨keyTokens, others, key, middle, rfl, keyRun, behindKey⟩
  rcases behindKey.of_expect (by simp) with ⟨colon, rest, kind, rfl, behindColon⟩
  rcases behindColon.of_bind with ⟨valueTokens, nothing, value, last, rfl, valueRun, done⟩
  rcases done.of_pure with ⟨rfl, rfl, -⟩
  have derivation := Derives.listedPair (sound.expression keyRun) (sound.expression valueRun)
  simpa [kind] using derivation

/-- A statement that is not an expression has its semicolon behind it. -/
theorem statementWith (sound : Sound inner) {tree : Stmt}
    (run : Takes (statementWith inner) cursor taken tree after) :
    Derives .statement (taken.map Token.kind) tree ∧
      ((Token.next after.tokens).kind = .symbol .semicolon ∨
        ∃ value, tree = .expression value ∧
          Derives (.expression .equality) (taken.map Token.kind) value) := by
  rw [Parser.statementWith] at run
  replace run := run.of_look
  split at run
  · rcases run.of_expect (by simp) with ⟨letToken, rest, letKind, rfl, behindLet⟩
    rcases behindLet.of_bind with ⟨nameTokens, rest, name, middle, rfl, nameRun, behindName⟩
    rcases behindName.of_expect (by simp) with ⟨assign, rest, assignKind, rfl, behindAssign⟩
    rcases behindAssign.of_bind with ⟨valueTokens, rest, value, last, rfl, valueRun, behindValue⟩
    rcases behindValue.of_terminated with ⟨follows, done⟩
    rcases done.of_pure with ⟨rfl, rfl, rfl⟩
    rcases nameRun.of_name with ⟨token, nameKind, rfl⟩
    have derivation := Derives.binding name (sound.expression valueRun)
    exact ⟨by simpa [letKind, nameKind, assignKind] using derivation, .inl follows⟩
  · rcases run.of_expect (by simp) with ⟨returnToken, rest, returnKind, rfl, behindReturn⟩
    rcases behindReturn.of_bind with ⟨valueTokens, rest, value, last, rfl, valueRun, behindValue⟩
    rcases behindValue.of_terminated with ⟨follows, done⟩
    rcases done.of_pure with ⟨rfl, rfl, rfl⟩
    have derivation := Derives.leaving (sound.expression valueRun)
    exact ⟨by simpa [returnKind] using derivation, .inl follows⟩
  · rcases run.of_bind with ⟨valueTokens, nothing, value, last, rfl, valueRun, done⟩
    rcases done.of_pure with ⟨rfl, rfl, rfl⟩
    rw [List.append_nil]
    have derivation := sound.expression valueRun
    exact ⟨.expression derivation, .inr ⟨value, rfl, derivation⟩⟩

/-- Statements up to the closing brace. -/
theorem statements (sound : Sound inner) {values : List Stmt}
    (run : Takes (sequence (Parser.statementWith inner) (.symbol .semicolon) (.symbol .rightBrace))
      cursor taken values after) :
    ∃ kinds, taken.map Token.kind = kinds ++ [.symbol .rightBrace] ∧
      Derives .statements kinds values := by
  induction length : taken.length using Nat.strongRecOn generalizing cursor taken values with
  | _ size ih =>
      rcases run.of_sequence (by simp) (by simp) with
        ⟨closing, kind, rfl, rfl⟩ | ⟨first, value, middle, here, there⟩
      · exact ⟨[], by simp [kind], .noStatements⟩
      · rcases sound.statementWith here with ⟨derivation, ends⟩
        rcases there with
          ⟨mark, rest, others, kind, rfl, rfl, -, following⟩ | ⟨closing, kind, rfl, rfl, remaining⟩
        · have shorter : rest.length < size := by
            simp only [List.length_append, List.length_cons] at length
            omega
          rcases ih _ shorter following rfl with ⟨kinds, split, more⟩
          exact ⟨first.map Token.kind ++ .symbol .semicolon :: kinds, by simp [kind, split],
            .moreStatements derivation more⟩
        · refine ⟨first.map Token.kind, by simp [kind], ?_⟩
          rcases ends with follows | ⟨expression, rfl, whole⟩
          · simp [remaining, kind] at follows
          · exact .lastExpression whole

theorem block (sound : Sound inner) : DerivedBy (block inner) .block := by
  intro cursor after taken tree run
  rcases run.of_expect (by simp) with ⟨opening, rest, kind, rfl, inside⟩
  rcases inside.of_braced with ⟨openBraces, elements⟩
  rcases sound.statements elements with ⟨kinds, split, derivation⟩
  simpa [kind, split] using .block derivation

theorem conditional (sound : Sound inner) {tree : Expr} {opener : Token}
    (keyword : opener.kind = .keyword .ifWord)
    (run : Takes (conditional inner) cursor taken tree after) :
    Derives (.expression .primary) ((opener :: taken).map Token.kind) tree := by
  rw [Parser.conditional] at run
  rcases run.of_expect (by simp) with ⟨opening, rest, openingKind, rfl, inside⟩
  rcases inside.of_bind with
    ⟨conditionTokens, rest, condition, middle, rfl, conditionRun, behindCondition⟩
  rcases behindCondition.of_expect (by simp) with ⟨closing, rest, closingKind, rfl, behindClosing⟩
  rcases behindClosing.of_bind with
    ⟨blockTokens, rest, consequence, last, rfl, blockRun, behindBlock⟩
  rw [alternative_eq, bind_assoc] at behindBlock
  replace behindBlock := behindBlock.of_look
  split at behindBlock
  · rw [bind_assoc] at behindBlock
    rcases behindBlock.of_expect (by simp) with ⟨elseToken, rest, elseKind, rfl, behindElse⟩
    rw [bind_assoc] at behindElse
    rcases behindElse.of_bind with ⟨elseTokens, nothing, alternative, _, rfl, elseRun, done⟩
    rw [pure_bind] at done
    rcases done.of_pure with ⟨rfl, rfl, -⟩
    have derivation := Derives.conditionalElse (sound.expression conditionRun)
      (sound.block blockRun) (sound.block elseRun)
    simpa [keyword, openingKind, closingKind, elseKind] using derivation
  · rw [pure_bind] at behindBlock
    rcases behindBlock.of_pure with ⟨rfl, rfl, -⟩
    have derivation := Derives.conditional (sound.expression conditionRun) (sound.block blockRun)
    simpa [keyword, openingKind, closingKind] using derivation

theorem function (sound : Sound inner) {tree : Expr} {opener : Token}
    (keyword : opener.kind = .keyword .fnWord)
    (run : Takes (function inner) cursor taken tree after) :
    Derives (.expression .primary) ((opener :: taken).map Token.kind) tree := by
  rw [Parser.function] at run
  rcases run.of_expect (by simp) with ⟨opening, rest, openingKind, rfl, inside⟩
  rcases inside.of_bind with ⟨listTokens, rest, parameters, middle, rfl, listRun, behindList⟩
  rcases behindList.of_bind with ⟨blockTokens, nothing, body, last, rfl, blockRun, done⟩
  rcases done.of_pure with ⟨rfl, rfl, -⟩
  rcases derives_list derivedBy_name (by simp) listRun with ⟨kinds, split, derivation⟩
  simpa [keyword, openingKind, split] using .function derivation (sound.block blockRun)

/-- An operand is an operator with its operand, or it stands for itself. -/
theorem operand (sound : Sound inner) {tree : Expr}
    (run : Takes (operand inner) cursor taken tree after) :
    ∃ tier : Tier, Tier.unary.rank ≤ tier.rank ∧
      (Token.next after.tokens).kind.precedence ≤ tier.ceiling ∧
      Derives (.expression tier) (taken.map Token.kind) tree := by
  have primary (derivation : Derives (.expression .primary) (taken.map Token.kind) tree) :
      ∃ tier : Tier, Tier.unary.rank ≤ tier.rank ∧
        (Token.next after.tokens).kind.precedence ≤ tier.ceiling ∧
        Derives (.expression tier) (taken.map Token.kind) tree :=
    ⟨.primary, by decide, TokenKind.precedence_le_index _, derivation⟩
  have unary {operator : UnaryOperator} {token : Token} {rest : List Token}
      (kind : token.kind = .symbol operator.symbol) (split : taken = token :: rest)
      {middle : Cursor} (run : Takes (unary inner operator) middle rest tree after) :
      ∃ tier : Tier, Tier.unary.rank ≤ tier.rank ∧
        (Token.next after.tokens).kind.precedence ≤ tier.ceiling ∧
        Derives (.expression tier) (taken.map Token.kind) tree := by
    rcases run.of_bind with ⟨operandTokens, nothing, operand, last, rfl, operandRun, done⟩
    rcases done.of_pure with ⟨rfl, rfl, rfl⟩
    rcases sound operandRun with ⟨derivation, follows⟩
    refine ⟨.unary, by decide, follows, ?_⟩
    simpa [split, kind] using .unary operator derivation
  rw [operand_eq] at run
  replace run := run.of_look
  split at run
  · rcases run.of_expect (by simp) with ⟨token, rest, kind, rfl, done⟩
    rcases done.of_pure with ⟨rfl, rfl, -⟩
    exact primary (by simpa [kind] using .identifier _)
  · rcases run.of_expect (by simp) with ⟨token, rest, kind, rfl, behind⟩
    rw [numeral] at behind
    split at behind
    · next denotes =>
        rcases behind.of_pure with ⟨rfl, rfl, -⟩
        have derivation := Derives.integer (Integer.ofDigits?_eq_some_iff.mp denotes)
        exact primary (by simpa [kind] using derivation)
    · exact absurd behind Takes.not_fail
  · rcases run.of_expect (by simp) with ⟨token, rest, kind, rfl, done⟩
    rcases done.of_pure with ⟨rfl, rfl, -⟩
    exact primary (by simpa [kind] using .string _)
  · rcases run.of_expect (by simp) with ⟨token, rest, kind, rfl, done⟩
    rcases done.of_pure with ⟨rfl, rfl, -⟩
    exact primary (by simpa [kind] using .trueWord)
  · rcases run.of_expect (by simp) with ⟨token, rest, kind, rfl, done⟩
    rcases done.of_pure with ⟨rfl, rfl, -⟩
    exact primary (by simpa [kind] using .falseWord)
  · rcases run.of_expect (by simp) with ⟨token, rest, kind, split, behind⟩
    exact unary kind split behind
  · rcases run.of_expect (by simp) with ⟨token, rest, kind, split, behind⟩
    exact unary kind split behind
  · rcases run.of_expect (by simp) with ⟨opening, rest, openingKind, rfl, behind⟩
    rcases behind.of_bind with ⟨innerTokens, rest, value, middle, rfl, innerRun, behindInner⟩
    rcases behindInner.of_expect (by simp) with ⟨closing, nothing, closingKind, rfl, done⟩
    rcases done.of_pure with ⟨rfl, rfl, -⟩
    have derivation := Derives.grouped (sound.expression innerRun)
    exact primary (by simpa [openingKind, closingKind] using derivation)
  · rcases run.of_expect (by simp) with ⟨opening, rest, openingKind, rfl, behind⟩
    rcases behind.of_bind with ⟨listTokens, nothing, elements, middle, rfl, listRun, done⟩
    rcases done.of_pure with ⟨rfl, rfl, -⟩
    rcases derives_list sound.listedExpression (by simp) listRun with ⟨kinds, split, derivation⟩
    exact primary (by simpa [openingKind, split] using .array derivation)
  · rcases run.of_expect (by simp) with ⟨opening, rest, openingKind, rfl, behind⟩
    rcases behind.of_bind with ⟨listTokens, nothing, pairs, middle, rfl, listRun, done⟩
    rcases done.of_pure with ⟨rfl, rfl, -⟩
    rcases listRun.of_braced with ⟨openBraces, elements⟩
    rcases derives_list sound.pair (by simp) elements with ⟨kinds, split, derivation⟩
    exact primary (by simpa [openingKind, split] using .hash derivation)
  · rcases run.of_expect (by simp) with ⟨token, rest, kind, rfl, behind⟩
    exact primary (sound.conditional kind behind)
  · rcases run.of_expect (by simp) with ⟨token, rest, kind, rfl, behind⟩
    exact primary (sound.function kind behind)
  · exact absurd run Takes.not_fail

/-- A continuation puts an operand on its own tier. -/
theorem continuation (sound : Sound inner) {next : Continuation} {left tree : Expr} {mark : Token}
    {before : List TokenKind} (announced : mark.kind = .symbol next.symbol)
    (derivation : Derives (.expression next.tier) before left)
    (run : Takes (continuation inner left next) cursor taken tree after) :
    (Token.next after.tokens).kind.precedence ≤ next.tier.ceiling ∧
      Derives (.expression next.tier) (before ++ mark.kind :: taken.map Token.kind) tree := by
  cases next with
  | operation operator =>
      rcases run.of_bind with ⟨rightTokens, nothing, right, last, rfl, rightRun, done⟩
      rcases done.of_pure with ⟨rfl, rfl, rfl⟩
      rcases sound rightRun with ⟨rightDerivation, follows⟩
      rw [BinaryOperator.above_precedence] at rightDerivation
      constructor
      · simpa [Continuation.tier] using follows
      · rw [announced, List.append_nil]
        exact .binary operator derivation rightDerivation
  | call =>
      rcases run.of_bind with ⟨listTokens, nothing, arguments, last, rfl, listRun, done⟩
      rcases done.of_pure with ⟨rfl, rfl, rfl⟩
      rcases derives_list sound.listedExpression (by simp) listRun with ⟨kinds, split, list⟩
      refine ⟨TokenKind.precedence_le_index _, ?_⟩
      rw [announced, List.append_nil, split]
      exact .call derivation list
  | index =>
      rcases run.of_bind with ⟨positionTokens, rest, position, last, rfl, positionRun, behind⟩
      rcases behind.of_expect (by simp) with ⟨closing, nothing, closingKind, rfl, done⟩
      rcases done.of_pure with ⟨rfl, rfl, -⟩
      refine ⟨TokenKind.precedence_le_index _, ?_⟩
      rw [announced, List.map_append, List.map_cons, closingKind, List.map_nil]
      exact .index derivation (sound.expression positionRun)

/-- The loop ends above the minimum, before a token that binds no more strongly. -/
theorem extend (sound : Sound inner) {minimum : Precedence} {tier : Tier} {left tree : Expr}
    {before : List TokenKind} (derivation : Derives (.expression tier) before left)
    (follows : (Token.next cursor.tokens).kind.precedence ≤ tier.ceiling)
    (above : minimum.above.rank ≤ tier.rank)
    (run : Takes (extend inner minimum left) cursor taken tree after) :
    Derives (.expression minimum.above) (before ++ taken.map Token.kind) tree ∧
      (Token.next after.tokens).kind.precedence ≤ minimum := by
  induction length : taken.length using Nat.strongRecOn
    generalizing cursor taken left before tier with
  | _ size ih =>
      rcases run.of_extend with
        ⟨weak, rfl, rfl, rfl⟩ |
          ⟨mark, next, first, rest, extended, middle, announced, strong, rfl, rfl, here, there⟩
      · exact ⟨by simpa using derivation.looser above, weak⟩
      · have kind := Continuation.kind_of_ofKind? announced
        have loose : next.tier.rank ≤ tier.rank := by
          apply Continuation.tier_le_of_le_ceiling
          simpa [TokenKind.precedence, announced] using follows
        rcases sound.continuation kind (derivation.looser loose) here with ⟨followsNext, longer⟩
        have shorter : rest.length < size := by
          simp only [List.length_append, List.length_cons] at length
          omega
        have whole := ih _ shorter longer followsNext (Continuation.above_le_tier strong) there rfl
        simpa using whole

theorem expressionWith (sound : Sound inner) : Sound (expressionWith inner) := by
  intro minimum cursor after taken tree run
  rcases run.of_bind with ⟨first, rest, left, middle, rfl, here, there⟩
  rcases sound.operand here with ⟨tier, tight, follows, derivation⟩
  have above : minimum.above.rank ≤ tier.rank := by
    refine Nat.le_trans ?_ tight
    cases minimum <;> decide
  simpa using sound.extend derivation follows above there

end Sound

theorem sound_expressionUpTo (bound : Nat) : Sound (expressionUpTo bound) := by
  induction bound with
  | zero =>
      intro minimum cursor after taken tree run
      exact absurd run.of_look Takes.not_fail
  | succ bound ih => exact ih.expressionWith

/-- What an expression takes derives its tree. -/
theorem sound_expression : Sound expression := by
  intro minimum cursor after taken tree run
  exact sound_expressionUpTo cursor.tokens.length ⟨run.tokens, run.reply⟩

end Parser

end Ember
