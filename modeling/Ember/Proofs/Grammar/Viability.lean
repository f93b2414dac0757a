import Ember.Proofs.Grammar.Soundness
import Ember.Proofs.Parser.Blame

/-!
# What the parser takes can be completed

A run of tokens is viable if some tokens behind it complete it to what the grammar
derives. A parser that fails has taken a viable run: it never takes a token too many,
whatever it fails on. So the token that it blames is the first one that can be at fault.

The proof goes through the productions. What was taken by the parts that succeeded is
derived, and what was taken by the part that failed is viable; around a viable part the
whole can be completed.
-/

namespace Ember

open Grammar (Tier Item Nonterminal Derives)
open Parser (Takes Ends Sound)

namespace Grammar

/-- Some tokens complete the run to what the nonterminal derives. -/
def Viable {α : Type} (nonterminal : Nonterminal α) (kinds : List TokenKind) : Prop :=
  ∃ missing tree, Derives nonterminal (kinds ++ missing) tree

theorem Derives.viable {α : Type} {nonterminal : Nonterminal α} {kinds : List TokenKind} {tree : α}
    (derivation : Derives nonterminal kinds tree) : Viable nonterminal kinds :=
  ⟨[], tree, by rwa [List.append_nil]⟩

namespace Viable

variable {α β : Type} {part : Nonterminal α} {whole : Nonterminal β} {kinds : List TokenKind}

/-- Where a part stands between tokens, a viable part makes the whole viable. -/
theorem within {before after : List TokenKind} (viable : Viable part kinds)
    (build : ∀ kinds tree, Derives part kinds tree →
      ∃ result, Derives whole (before ++ (kinds ++ after)) result) :
    Viable whole (before ++ kinds) := by
  obtain ⟨missing, tree, derivation⟩ := viable
  obtain ⟨result, built⟩ := build _ tree derivation
  refine ⟨missing ++ after, result, ?_⟩
  rwa [List.append_assoc, ← List.append_assoc kinds]

/-- A part that stands first, with tokens behind it. -/
theorem first {after : List TokenKind} (viable : Viable part kinds)
    (build : ∀ kinds tree, Derives part kinds tree →
      ∃ result, Derives whole (kinds ++ after) result) : Viable whole kinds := by
  obtain ⟨missing, tree, derivation⟩ := viable
  obtain ⟨result, built⟩ := build _ tree derivation
  exact ⟨missing ++ after, result, by rwa [← List.append_assoc]⟩

theorem looser {tier target : Tier} (viable : Viable (.expression tier) kinds)
    (loose : target.rank ≤ tier.rank) : Viable (.expression target) kinds := by
  obtain ⟨missing, tree, derivation⟩ := viable
  exact ⟨missing, tree, derivation.looser loose⟩

end Viable

/-- A name stands for an expression of every tier. -/
theorem derives_identifier (tier : Tier) :
    Derives (.expression tier) [.identifier "x"] (.identifier "x") :=
  (Derives.identifier "x").looser tier.rank_le

theorem viable_expression (tier : Tier) : Viable (.expression tier) [] :=
  ⟨_, _, derives_identifier tier⟩

theorem derives_emptyBlock : Derives .block [.symbol .leftBrace, .symbol .rightBrace] [] :=
  .block .noStatements

end Grammar

open Grammar (Viable derives_identifier viable_expression derives_emptyBlock)

namespace Parser

/-- What the parsers for the inner expressions take before they fail is viable. -/
def Predictive (inner : Precedence → Parser Expr) : Prop :=
  ∀ minimum cursor, Ends (Viable (.expression minimum.above)) (inner minimum) cursor

/-- A list is viable in every item, and behind every item. -/
theorem ends_list {α : Type} {item : Item α} {element : Parser α} {terminator : TokenKind}
    (derived : DerivedBy element (.item item))
    (ends : ∀ cursor, Ends (Viable (.item item)) element cursor)
    (proper : terminator ≠ .endOfInput) (cursor : Cursor) :
    Ends (Viable (.list item)) (sequence element (.symbol .comma) terminator) cursor := by
  apply Ends.sequence (by simp) proper Derives.noItems.viable
  · intro cursor
    apply (ends cursor).mono
    rintro kinds ⟨missing, value, derivation⟩
    exact ⟨missing, [value], .lastItem derivation⟩
  · intro cursor taken value after run
    have derivation := derived run
    refine ⟨(Derives.lastItem derivation).viable, ?_⟩
    rintro kinds ⟨missing, values, others⟩
    refine ⟨missing, value :: values, ?_⟩
    rw [List.append_assoc]
    exact .moreItems derivation others

namespace Predictive

variable {inner : Precedence → Parser Expr} (predictive : Predictive inner) (sound : Sound inner)

include predictive

theorem listedExpression (cursor : Cursor) :
    Ends (Viable (.item .expression)) (inner .lowest) cursor := by
  apply (predictive .lowest cursor).mono
  rintro kinds ⟨missing, tree, derivation⟩
  exact ⟨missing, tree, .listedExpression derivation⟩

include sound

theorem pair (cursor : Cursor) : Ends (Viable (.item .pair)) (pair inner) cursor := by
  have key : ∀ kinds, Viable (.expression .equality) kinds → Viable (.item .pair) kinds :=
    fun kinds viable => viable.first fun _ _ derivation =>
      ⟨_, .listedPair derivation (derives_identifier .equality)⟩
  apply ((predictive .lowest cursor).mono key).bind
  intro taken keyTree after run
  have derivation := sound.expression run
  have here := key _ derivation.viable
  refine .expect (by simp) (by rwa [List.append_nil]) fun colon rest _ _ => ?_
  have value : ∀ kinds, Viable (.expression .equality) kinds →
      Viable (.item .pair) (taken.map Token.kind ++ .symbol .colon :: kinds) := by
    rintro kinds ⟨missing, tree, valueDerivation⟩
    refine ⟨missing, (keyTree, tree), ?_⟩
    rw [List.append_assoc]
    exact .listedPair derivation valueDerivation
  exact ((predictive .lowest _).mono value).bind fun _ _ _ _ => .pure _

theorem binding (cursor : Cursor) : Ends (Viable .statement) (binding inner) cursor := by
  have value (name : String) : ∀ kinds, Viable (.expression .equality) kinds →
      Viable .statement (.keyword .letWord :: .identifier name :: .symbol .assign :: kinds) := by
    rintro kinds ⟨missing, tree, derivation⟩
    exact ⟨missing, _, .binding name derivation⟩
  have whole := Derives.binding "x" (derives_identifier .equality)
  refine .expect (by simp) ⟨_, _, whole⟩ fun opening rest _ _ => ?_
  refine (Ends.name ⟨_, _, whole⟩).bind fun taken name after run => ?_
  obtain ⟨token, kind, rfl⟩ := run.of_name
  rw [List.map_singleton, kind]
  refine .expect (by simp) ⟨_, _, .binding name (derives_identifier .equality)⟩
    fun assign rest _ _ => ?_
  refine ((predictive .lowest _).mono (value name)).bind fun taken tree after run => ?_
  have here := value name _ (sound.expression run).viable
  refine (Ends.terminated ?_).bind fun _ _ _ _ => .pure _
  rwa [List.append_nil]

theorem leaving (cursor : Cursor) : Ends (Viable .statement) (leaving inner) cursor := by
  have value : ∀ kinds, Viable (.expression .equality) kinds →
      Viable .statement (.keyword .returnWord :: kinds) := by
    rintro kinds ⟨missing, tree, derivation⟩
    exact ⟨missing, _, .leaving derivation⟩
  have whole := Derives.leaving (derives_identifier .equality)
  refine .expect (by simp) ⟨_, _, whole⟩ fun opening rest _ _ => ?_
  refine ((predictive .lowest _).mono value).bind fun taken tree after run => ?_
  have here := value _ (sound.expression run).viable
  refine (Ends.terminated ?_).bind fun _ _ _ _ => .pure _
  rwa [List.append_nil]

theorem statementWith (cursor : Cursor) :
    Ends (Viable .statement) (statementWith inner) cursor := by
  apply Ends.look
  split
  · exact predictive.binding sound cursor
  · exact predictive.leaving sound cursor
  · refine ((predictive .lowest cursor).mono ?_).bind fun _ _ _ _ => .pure _
    rintro kinds ⟨missing, value, derivation⟩
    exact ⟨missing, _, .expression derivation⟩

/-- A semicolon completes every statement. -/
theorem statements (cursor : Cursor) :
    Ends (Viable .statements)
      (sequence (Parser.statementWith inner) (.symbol .semicolon) (.symbol .rightBrace))
      cursor := by
  have statement : ∀ kinds, Viable .statement kinds → Viable .statements kinds :=
    fun kinds viable => viable.first fun _ _ derivation =>
      ⟨_, .moreStatements derivation .noStatements⟩
  apply Ends.sequence (by simp) (by simp) Derives.noStatements.viable
  · exact fun cursor => (predictive.statementWith sound cursor).mono statement
  · intro cursor taken value after run
    have derivation := (sound.statementWith run).1
    refine ⟨statement _ derivation.viable, ?_⟩
    rintro kinds ⟨missing, values, others⟩
    refine ⟨missing, value :: values, ?_⟩
    rw [List.append_assoc]
    exact .moreStatements derivation others

theorem block (cursor : Cursor) : Ends (Viable .block) (block inner) cursor := by
  have inside : ∀ kinds, Viable .statements kinds →
      Viable .block ([.symbol .leftBrace] ++ kinds) :=
    fun kinds viable => viable.within fun _ _ derivation => ⟨_, .block derivation⟩
  refine .expect (by simp) ⟨_, _, derives_emptyBlock⟩ fun opening rest _ _ => ?_
  exact ((predictive.statements sound _).mono inside).braced

theorem alternative {viable : List TokenKind → Prop} (possible : viable [])
    (branch : ∀ kinds, Viable .block kinds → viable (.keyword .elseWord :: kinds))
    (cursor : Cursor) : Ends viable (alternative inner) cursor := by
  rw [alternative_eq]
  apply Ends.look
  split
  · refine .expect (by simp) possible fun opening rest _ _ => ?_
    exact ((predictive.block sound _).mono branch).bind fun _ _ _ _ => .pure _
  · exact .pure _

theorem conditional (cursor : Cursor) :
    Ends (fun kinds => Viable (.expression .primary) (.keyword .ifWord :: kinds))
      (conditional inner) cursor := by
  have condition : ∀ kinds, Viable (.expression .equality) kinds →
      Viable (.expression .primary) ([.keyword .ifWord, .symbol .leftParen] ++ kinds) :=
    fun kinds viable => viable.within fun _ _ derivation =>
      ⟨_, .conditional derivation derives_emptyBlock⟩
  refine .expect (by simp) ⟨_, _, .conditional (derives_identifier _) derives_emptyBlock⟩
    fun opening rest _ _ => ?_
  refine ((predictive .lowest _).mono condition).bind fun taken tree after run => ?_
  have conditionDerived := sound.expression run
  have behindCondition := condition _ conditionDerived.viable
  refine .expect (by simp) (by rwa [List.append_nil]) fun closing rest _ _ => ?_
  have consequence : ∀ kinds, Viable .block kinds → Viable (.expression .primary)
      (.keyword .ifWord :: .symbol .leftParen ::
        (taken.map Token.kind ++ .symbol .rightParen :: kinds)) := by
    rintro kinds ⟨missing, block, derivation⟩
    exact ⟨missing, .conditional tree block none, by
      simpa using Derives.conditional conditionDerived derivation⟩
  refine ((predictive.block sound _).mono consequence).bind fun blockTokens block _ blockRun => ?_
  have blockDerived := sound.block blockRun
  have behindBlock := consequence _ blockDerived.viable
  refine (predictive.alternative sound (by rwa [List.append_nil]) ?_ _).bind fun _ _ _ _ => .pure _
  rintro kinds ⟨missing, other, derivation⟩
  exact ⟨missing, .conditional tree block (some other), by
    simpa using Derives.conditionalElse conditionDerived blockDerived derivation⟩

theorem function (cursor : Cursor) :
    Ends (fun kinds => Viable (.expression .primary) (.keyword .fnWord :: kinds))
      (function inner) cursor := by
  have parameters : ∀ kinds, Viable (.list .name) kinds →
      Viable (.expression .primary) ([.keyword .fnWord, .symbol .leftParen] ++ kinds) :=
    fun kinds viable => viable.within fun _ _ derivation =>
      ⟨_, .function derivation derives_emptyBlock⟩
  have name (cursor : Cursor) : Ends (Viable (.item .name)) Parser.name cursor :=
    .name ⟨_, _, .listedName "x"⟩
  refine .expect (by simp) ⟨_, _, .function .noItems derives_emptyBlock⟩ fun opening rest _ _ => ?_
  refine ((ends_list derivedBy_name name (by simp) _).mono parameters).bind
    fun taken names after run => ?_
  obtain ⟨kinds, split, derived⟩ := derives_list derivedBy_name (by simp) run
  rw [split]
  refine ((predictive.block sound _).mono ?_).bind fun _ _ _ _ => .pure _
  rintro others ⟨missing, body, derivation⟩
  exact ⟨missing, .function names body, by simpa using Derives.function derived derivation⟩

/-- An operand is viable on every tier of the operators between operands. -/
theorem operand (cursor : Cursor) :
    Ends (Viable (.expression .unary)) (operand inner) cursor := by
  have primary : ∀ kinds, Viable (.expression .primary) kinds → Viable (.expression .unary) kinds :=
    fun kinds viable => viable.looser (by decide)
  have unary (operator : UnaryOperator) : ∀ kinds, Viable (.expression .unary) kinds →
      Viable (.expression .unary) (.symbol operator.symbol :: kinds) := by
    rintro kinds ⟨missing, tree, derivation⟩
    exact ⟨missing, _, .unary operator derivation⟩
  have possible := viable_expression .unary
  rcases cursor with ⟨tokens, openBraces⟩
  rw [operand_eq]
  apply Ends.look
  split
  · exact .expect (by simp) possible fun _ _ _ _ => .pure _
  · next digits kind =>
      obtain ⟨token, rest, rfl, same⟩ := exists_cons_of_next kind (by simp)
      exact .numeral same possible
  · exact .expect (by simp) possible fun _ _ _ _ => .pure _
  · exact .expect (by simp) possible fun _ _ _ _ => .pure _
  · exact .expect (by simp) possible fun _ _ _ _ => .pure _
  · refine .expect (by simp) possible fun _ _ _ _ => ?_
    exact ((predictive .unary _).mono (unary .not)).bind fun _ _ _ _ => .pure _
  · refine .expect (by simp) possible fun _ _ _ _ => ?_
    exact ((predictive .unary _).mono (unary .negate)).bind fun _ _ _ _ => .pure _
  · have grouped : ∀ kinds, Viable (.expression .equality) kinds →
        Viable (.expression .unary) ([.symbol .leftParen] ++ kinds) :=
      fun kinds viable => primary _ (viable.within fun _ _ derivation => ⟨_, .grouped derivation⟩)
    refine .expect (by simp) possible fun opening rest _ _ => ?_
    refine ((predictive .lowest _).mono grouped).bind fun taken tree after run => ?_
    have here := grouped _ (sound.expression run).viable
    exact .expect (by simp) (by rwa [List.append_nil]) fun _ _ _ _ => .pure _
  · have array : ∀ kinds, Viable (.list .expression) kinds →
        Viable (.expression .unary) ([.symbol .leftBracket] ++ kinds) :=
      fun kinds viable => primary _ (viable.within fun _ _ derivation => ⟨_, .array derivation⟩)
    refine .expect (by simp) possible fun opening rest _ _ => ?_
    exact ((ends_list sound.listedExpression predictive.listedExpression (by simp) _).mono
      array).bind fun _ _ _ _ => .pure _
  · have hash : ∀ kinds, Viable (.list .pair) kinds →
        Viable (.expression .unary) ([.symbol .leftBrace] ++ kinds) :=
      fun kinds viable => primary _ (viable.within fun _ _ derivation => ⟨_, .hash derivation⟩)
    refine .expect (by simp) possible fun opening rest _ _ => ?_
    exact ((ends_list sound.pair (predictive.pair sound) (by simp) _).mono hash).braced.bind
      fun _ _ _ _ => .pure _
  · refine .expect (by simp) possible fun opening rest _ _ => ?_
    exact (predictive.conditional sound _).mono fun kinds => primary _
  · refine .expect (by simp) possible fun opening rest _ _ => ?_
    exact (predictive.function sound _).mono fun kinds => primary _
  · exact .missingOperand possible

theorem continuation {next : Continuation} {left : Expr} {before : List TokenKind}
    (derivation : Derives (.expression next.tier) before left) (cursor : Cursor) :
    Ends (fun kinds => Viable (.expression next.tier) (before ++ .symbol next.symbol :: kinds))
      (continuation inner left next) cursor := by
  cases next with
  | operation operator =>
      refine ((predictive operator.precedence cursor).mono ?_).bind fun _ _ _ _ => .pure _
      rw [BinaryOperator.above_precedence]
      rintro kinds ⟨missing, right, rightDerived⟩
      refine ⟨missing, .binary operator left right, ?_⟩
      rw [List.append_assoc]
      exact .binary operator derivation rightDerived
  | call =>
      refine ((ends_list sound.listedExpression predictive.listedExpression (by simp) cursor).mono
        ?_).bind fun _ _ _ _ => .pure _
      rintro kinds ⟨missing, arguments, listed⟩
      refine ⟨missing ++ [.symbol .rightParen], .call left arguments, ?_⟩
      rw [List.append_assoc, List.cons_append, ← List.append_assoc kinds]
      exact .call derivation listed
  | index =>
      have position : ∀ kinds, Viable (.expression .equality) kinds →
          Viable (.expression .suffixed) (before ++ .symbol .leftBracket :: kinds) := by
        rintro kinds ⟨missing, position, positionDerived⟩
        refine ⟨missing ++ [.symbol .rightBracket], .index left position, ?_⟩
        rw [List.append_assoc, List.cons_append, ← List.append_assoc kinds]
        exact .index derivation positionDerived
      refine ((predictive .lowest cursor).mono position).bind fun taken tree after run => ?_
      have here := position _ (sound.expression run).viable
      exact .expect (by simp) (by rwa [List.append_nil]) fun _ _ _ _ => .pure _

/-- While an operand is extended, what was read of it stays derived. -/
theorem extend {minimum : Precedence} {tier : Tier} {left : Expr} {before : List TokenKind}
    {cursor : Cursor} (derivation : Derives (.expression tier) before left)
    (follows : (Token.next cursor.tokens).kind.precedence ≤ tier.ceiling)
    (above : minimum.above.rank ≤ tier.rank) :
    Ends (fun kinds => Viable (.expression minimum.above) (before ++ kinds))
      (extend inner minimum left) cursor := by
  induction length : cursor.tokens.length using Nat.strongRecOn
    generalizing cursor left before tier with
  | _ size ih =>
      have possible : Viable (.expression minimum.above) (before ++ []) := by
        rw [List.append_nil]
        exact (derivation.looser above).viable
      rw [extend_eq]
      apply Ends.look
      split
      · exact .pure _
      · next next announced =>
          split
          · exact .pure _
          · next strong =>
              have kind := Continuation.kind_of_ofKind? announced
              have proper : (Token.next cursor.tokens).kind ≠ .endOfInput := by simp [kind]
              have loose : next.tier.rank ≤ tier.rank := by
                apply Continuation.tier_le_of_le_ceiling
                simpa [TokenKind.precedence, announced] using follows
              have tight := Continuation.above_le_tier strong
              refine .expect proper possible fun mark rest same remaining => ?_
              rw [kind] at same ⊢
              have inside := predictive.continuation sound (derivation.looser loose)
                ⟨rest, cursor.openBraces⟩
              refine (inside.mono fun kinds viable => viable.looser tight).bind
                fun taken tree after run => ?_
              obtain ⟨followsNext, longer⟩ :=
                sound.continuation same (derivation.looser loose) run
              have shorter : after.tokens.length < size := by
                have whole := congrArg List.length run.tokens
                rw [remaining, List.length_cons] at length
                simp only [List.length_append] at whole
                omega
              rw [same] at longer
              exact (ih _ shorter longer followsNext tight rfl).mono fun kinds viable => by
                simpa using viable

theorem expressionWith : Predictive (expressionWith inner) := by
  intro minimum cursor
  have loose : minimum.above.rank ≤ Tier.unary.rank := by
    cases minimum <;> decide
  refine ((predictive.operand sound cursor).mono fun kinds viable => viable.looser loose).bind
    fun taken left after run => ?_
  obtain ⟨tier, tight, follows, derivation⟩ := sound.operand run
  exact predictive.extend sound derivation follows (Nat.le_trans loose tight)

end Predictive

theorem predictive_expressionUpTo (bound : Nat) : Predictive (expressionUpTo bound) := by
  induction bound with
  | zero => exact fun minimum cursor => .look (.missingOperand (viable_expression _))
  | succ bound ih => exact ih.expressionWith (sound_expressionUpTo bound)

theorem predictive_expression : Predictive expression := by
  intro minimum cursor
  rcases predictive_expressionUpTo cursor.tokens.length minimum cursor with
    ⟨taken, value, after, run⟩ | ⟨taken, rest, error, blocked, viable⟩
  · exact .inl ⟨taken, value, after, run.tokens, run.reply⟩
  · exact .inr ⟨taken, rest, error, ⟨blocked.tokens, blocked.blames, blocked.reply⟩, viable⟩

/-- A statement that fails is viable up to the token that is blamed. -/
theorem ends_statement (cursor : Cursor) : Ends (Viable .statement) statement cursor :=
  predictive_expression.statementWith sound_expression cursor

end Parser

end Ember
