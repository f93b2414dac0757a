import Ember.Proofs.Parser.Reports

/-!
# Termination of the parser

Nothing that the parser is asked can keep it busy for ever, whatever the tokens are. Its
loops are the rounds of a program, the elements of a sequence and the continuations of an
operand, and each round of them consumes a token, also where the clause fails on its first
one. Its recursion goes through the expressions inside an expression, and these stand behind
at least one token of it.

The depth of the recursion is told from the productions themselves. A production takes the
parser for inner expressions as an argument, so a call for an inner expression is one whose
answer the production depends on. And a recursion that is broken off below a given depth, in
whatever way, gives the same answers as soon as that depth exceeds the number of tokens.
-/

namespace Ember

/-- Tokens at the front that are not the end of the input stand before it. -/
theorem Token.length_beforeEnd_drop {tokens : List Token} {count : Nat}
    (few : count ≤ tokens.length) (inside : ∀ token ∈ tokens.take count, token.isEnd = false) :
    (beforeEnd tokens).length = count + (beforeEnd (tokens.drop count)).length := by
  have parts : beforeEnd tokens = tokens.take count ++ beforeEnd (tokens.drop count) := by
    rw [← beforeEnd_append inside, List.take_append_drop]
  rw [parts, List.length_append, List.length_take_of_le few]

namespace Parser

variable {α β : Type}

/-! ## Progress -/

/-- A parser that consumes at least one token when it succeeds. -/
def Advances (parser : Parser α) : Prop :=
  ∀ cursor value, (parser cursor).result = .ok value → 0 < (parser cursor).consumed

namespace Advances

theorem fail (error : SyntaxError) : Advances (Parser.fail error : Parser α) := by
  intro cursor value succeeded
  cases succeeded

theorem expect (kind : TokenKind) : Advances (Parser.expect kind) := by
  intro cursor value succeeded
  by_cases fits : (Token.next cursor.tokens).kind = kind
  · rw [expect_of_eq fits]
    exact Nat.one_pos
  · rw [expect_of_ne fits] at succeeded
    cases succeeded

theorem look {next : Token → Parser α} (advances : ∀ token, Advances (next token)) :
    Advances (peek >>= next) := by
  intro cursor value succeeded
  rw [peek_bind_apply] at succeeded ⊢
  exact advances _ cursor value succeeded

/-- What advances also advances if something follows. -/
theorem bind {parser : Parser α} (advances : Advances parser) (next : α → Parser β) :
    Advances (parser >>= next) := by
  intro cursor value succeeded
  have consumes := advances cursor
  rw [bind_apply] at succeeded ⊢
  generalize parser cursor = reply at consumes succeeded ⊢
  rcases reply with ⟨_ | first, consumed, openBraces⟩
  · cases succeeded
  · exact Nat.add_pos_left (consumes first rfl) _

theorem name : Advances Parser.name := by
  rw [name_eq]
  refine look fun token => ?_
  split
  · exact (expect _).bind _
  · exact fail _

/-- An operand begins with a token of its own. -/
theorem operand (inner : Precedence → Parser Expr) : Advances (Parser.operand inner) := by
  rw [operand_eq]
  refine look fun token => ?_
  split <;> first | exact (expect _).bind _ | exact fail _

theorem expression (minimum : Precedence) : Advances (Parser.expression minimum) := by
  rw [expression_eq]
  exact (operand _).bind _

theorem pair : Advances (Parser.pair Parser.expression) :=
  (expression .lowest).bind _

theorem statement : Advances Parser.statement := by
  refine look fun token => ?_
  split
  · exact (expect _).bind _
  · exact (expect _).bind _
  · exact (expression .lowest).bind _

end Advances

/-- A left operand and the next token make up a larger operand: one round of the loop that
extends operands. -/
def infixStep (left : Expr) (kind : TokenKind) (next : Continuation) : Parser Expr := do
  expect kind
  continuation expression left next

/-- Before a token that binds more strongly than the minimum the loop goes through one more
round. -/
theorem extend_of_strong {minimum : Precedence} {cursor : Cursor} {next : Continuation}
    (announced : Continuation.ofKind? (Token.next cursor.tokens).kind = some next)
    (strong : ¬ next.precedence ≤ minimum) (left : Expr) :
    extend expression minimum left cursor =
      (infixStep left (Token.next cursor.tokens).kind next >>= extend expression minimum)
        cursor := by
  rw [infixStep, bind_assoc]
  nth_rewrite 1 [extend_eq]
  rw [peek_bind_apply, announced]
  dsimp only
  rw [if_neg strong]

/-! ## The rounds of a program -/

/-- The rounds that the loop over a program goes through from a cursor on, and what comes of
them. -/
inductive Rounds : Cursor → Nat → Parsing → Prop where
  | done {cursor : Cursor} : (Token.next cursor.tokens).isEnd →
      Rounds cursor 0 ⟨[.consumed (Token.next cursor.tokens)], [], []⟩
  | clause {cursor : Cursor} {count : Nat} {following : Parsing} :
      (Token.next cursor.tokens).isEnd = false →
        Rounds (cursor.after (Clause.read cursor).size (Clause.read cursor).openBraces) count
            following →
          Rounds cursor (count + 1)
            ⟨(Clause.read cursor).events cursor.tokens ++ following.events,
              (Clause.read cursor).statement.toList ++ following.statements,
              (Clause.read cursor).error.toList ++ following.errors⟩

/-- A round consumes at least one token, and those that it consumes stand before the end of
the input. -/
theorem length_beforeEnd_of_clause {cursor : Cursor}
    (goesOn : (Token.next cursor.tokens).isEnd = false) :
    0 < (Clause.read cursor).size ∧
      (Token.beforeEnd cursor.tokens).length =
        (Clause.read cursor).size +
          (Token.beforeEnd (cursor.tokens.drop (Clause.read cursor).size)).length := by
  have size : (Clause.read cursor).size = clauseLength 0 cursor.tokens :=
    Clause.size_read cursor.tokens
  rw [size]
  exact ⟨clauseLength_pos goesOn,
    Token.length_beforeEnd_drop (clauseLength_le 0 _) isEnd_eq_false_of_mem_clause⟩

/-- There are no more rounds than tokens before the end of the input. -/
theorem exists_rounds (cursor : Cursor) :
    ∃ count ≤ (Token.beforeEnd cursor.tokens).length,
      Rounds cursor count (Parsing.ofCursor cursor) := by
  induction length : (Token.beforeEnd cursor.tokens).length using Nat.strongRecOn
    generalizing cursor with
  | _ size ih =>
      subst length
      rw [Parsing.ofCursor_eq]
      cases ended : (Token.next cursor.tokens).isEnd with
      | true =>
          rw [Parsing.ofTokens_of_isEnd ended]
          exact ⟨0, Nat.zero_le _, .done ended⟩
      | false =>
          obtain ⟨positive, split⟩ := length_beforeEnd_of_clause ended
          let behind := cursor.after (Clause.read cursor).size (Clause.read cursor).openBraces
          have fewer : (Token.beforeEnd behind.tokens).length <
              (Token.beforeEnd cursor.tokens).length := by
            rw [split]
            exact Nat.lt_add_of_pos_left positive
          obtain ⟨count, few, rounds⟩ := ih _ fewer behind rfl
          rw [Parsing.ofCursor_eq] at rounds
          rw [Parsing.ofTokens_eq ended]
          exact ⟨count + 1, Nat.lt_of_le_of_lt few fewer, .clause ended rounds⟩

/-- No answer goes beyond the tokens before the end of the input. -/
theorem consumed_le_length_beforeEnd (request : Request) (cursor : Cursor) :
    (request.parser cursor).consumed ≤ (Token.beforeEnd cursor.tokens).length := by
  have walk := (request.walks cursor).walk
  rw [Token.length_beforeEnd_drop walk.length_le walk.isEnd_eq_false]
  exact Nat.le_add_right _ _

/-! ## The depth of the recursion -/

/-- Expressions whose recursion is broken off below a depth: what stands deeper is left to
another parser. -/
def unfolded (below : Precedence → Parser Expr) : Nat → Precedence → Parser Expr
  | 0 => below
  | depth + 1 => expressionWith (unfolded below depth)

/-- The recursion never comes deeper than the number of tokens. -/
theorem unfolded_eq_expression (below : Precedence → Parser Expr) {depth : Nat} {cursor : Cursor}
    (ample : cursor.tokens.length < depth) (minimum : Precedence) :
    unfolded below depth minimum cursor = expression minimum cursor := by
  induction depth generalizing minimum cursor with
  | zero => exact absurd ample (Nat.not_lt_zero _)
  | succ depth ih =>
      rw [expression_eq]
      refine congruence_agree.expressionWith ?_ minimum cursor (Nat.le_refl _)
      intro smaller less inner behind few
      exact ih (by omega) inner

/-- Neither does that of a statement. -/
theorem statementWith_unfolded (below : Precedence → Parser Expr) {depth : Nat} {cursor : Cursor}
    (ample : cursor.tokens.length < depth) :
    statementWith (unfolded below depth) cursor = statement cursor := by
  refine congruence_agree.statementWith ?_ cursor (Nat.le_refl _)
  intro minimum behind few
  exact unfolded_eq_expression below (by omega) minimum

/-- A call for an expression: above a minimum, and at a cursor. -/
structure Call where
  minimum : Precedence
  cursor : Cursor
  deriving DecidableEq

/-- The parser for expressions, if one call were answered in another way. -/
def Call.answered (call : Call) (answer : Reply Expr) (minimum : Precedence) : Parser Expr :=
  fun cursor => if Call.mk minimum cursor = call then answer else expression minimum cursor

theorem Call.answered_of_ne {call : Call} {answer : Reply Expr} {minimum : Precedence}
    {cursor : Cursor} (elsewhere : cursor ≠ call.cursor) :
    call.answered answer minimum cursor = expression minimum cursor := by
  rw [answered, if_neg]
  rintro rfl
  exact elsewhere rfl

/-- A production makes a call for an inner expression at a cursor: its reply depends on the
answer. -/
def Makes (production : (Precedence → Parser Expr) → Parser α) (cursor : Cursor) (call : Call) :
    Prop :=
  ∃ answer, production (call.answered answer) cursor ≠ production expression cursor

/-- What stands in a call for an expression is asked for by another call. -/
def Call.Makes (call : Call) : Call → Prop :=
  Parser.Makes (expressionWith · call.minimum) call.cursor

theorem congruence_agreeOn_suffix (whole : List Token) :
    Congruence Eq (fun _ => True) (AgreeOn (· <:+ whole)) :=
  congruence_agreeOn fun _ count reached => (List.drop_suffix count _).trans reached

/-- An inner expression stands behind at least one token of the expression. -/
theorem Call.Makes.suffix_and_length_lt {call inner : Call} (made : call.Makes inner) :
    inner.cursor.tokens <:+ call.cursor.tokens ∧
      inner.cursor.tokens.length < call.cursor.tokens.length := by
  by_contra outside
  obtain ⟨answer, differs⟩ := made
  refine differs ((congruence_agreeOn_suffix call.cursor.tokens).expressionWith ?_ call.minimum
    call.cursor List.suffix_rfl (Nat.le_refl _))
  intro smaller less minimum cursor reached few
  apply answered_of_ne
  rintro rfl
  exact outside ⟨reached, Nat.lt_of_le_of_lt few less⟩

/-- The expressions in a statement stand in what is left at its beginning. -/
theorem Makes.suffix_of_statement {cursor : Cursor} {call : Call}
    (made : Makes statementWith cursor call) : call.cursor.tokens <:+ cursor.tokens := by
  by_contra outside
  obtain ⟨answer, differs⟩ := made
  refine differs ((congruence_agreeOn_suffix cursor.tokens).statementWith ?_
    cursor List.suffix_rfl (Nat.le_refl _))
  intro minimum behind reached few
  apply Call.answered_of_ne
  rintro rfl
  exact outside reached

/-- Calls that are made in one another are no more than the tokens. -/
theorem length_le_of_isChain {call : Call} {calls : List Call}
    (chain : List.IsChain Call.Makes (call :: calls)) :
    calls.length ≤ call.cursor.tokens.length := by
  induction calls generalizing call with
  | nil => exact Nat.zero_le _
  | cons inner calls ih =>
      obtain ⟨made, further⟩ := List.isChain_cons_cons.mp chain
      have shorter := made.suffix_and_length_lt.2
      have rest := ih further
      rw [List.length_cons]
      omega

/-- Behind an exclamation mark an operand is asked for. -/
theorem Call.makes_unary {token : Token} (kind : token.kind = .symbol .bang)
    (minimum : Precedence) (rest : List Token) (openBraces : Nat) :
    (Call.mk minimum ⟨token :: rest, openBraces⟩).Makes ⟨.unary, ⟨rest, openBraces⟩⟩ := by
  -- An answer that leaves another count of braces is handed on.
  let cursor : Cursor := ⟨token :: rest, openBraces⟩
  let answer : Reply Expr := ⟨.error (.missingOperand token), 0,
    (expressionWith expression minimum cursor).openBraces + 1⟩
  let inner := (Call.mk .unary ⟨rest, openBraces⟩).answered answer
  have opens : behindOpening inner token.kind = some (unary inner .not) := by rw [kind]; rfl
  have run := (reaches_opening opens rest openBraces).bind (extend inner minimum)
  have handedOn : (expressionWith inner minimum cursor).openBraces = answer.openBraces := by
    have asked : inner .unary ⟨rest, openBraces⟩ = answer := if_pos rfl
    rw [expressionWith, run.reply, unary, bind_assoc, bind_apply, asked]
    rfl
  refine ⟨answer, fun same => ?_⟩
  have equal := handedOn.symm.trans (congrArg Reply.openBraces same)
  exact Nat.succ_ne_self _ equal

/-- The tokens can all be needed for calls that are made in one another. -/
theorem exists_isChain_makes {token : Token} (kind : token.kind = .symbol .bang) (count : Nat) :
    ∃ calls : List Call, calls.length = count ∧
      List.IsChain Call.Makes (⟨.unary, ⟨List.replicate count token, 0⟩⟩ :: calls) := by
  induction count with
  | zero => exact ⟨[], rfl, .singleton _⟩
  | succ count ih =>
      obtain ⟨calls, length, chain⟩ := ih
      let inner : Call := ⟨.unary, ⟨List.replicate count token, 0⟩⟩
      exact ⟨inner :: calls, congrArg (· + 1) length,
        .cons_cons (Call.makes_unary kind .unary (List.replicate count token) 0) chain⟩

/-- The parser always terminates, however malformed the tokens are.

Its recursion comes to an end: expressions and statements do not depend on what stands
deeper than the number of tokens. So does its loop over a program, after no more rounds than
there are tokens before the end of the input.

All of this is progress. Every expression and every statement consumes at least one token
when it succeeds, and so does every element of a sequence (these, names and pairs) and every
round that extends an operand. Every round of the loop over a program consumes one, also when
it fails. No answer takes back a token or goes beyond the end of the input.

The calls for expressions that are made in one another stand at ever later tokens, so there
are no more of them below the first one than tokens at its cursor. The other productions do
not call themselves, and a fixed number of them stands between two such calls. -/
theorem parser_always_terminates :
    (∀ (below : Precedence → Parser Expr) (depth : Nat) (cursor : Cursor),
      cursor.tokens.length < depth →
        (∀ minimum, unfolded below depth minimum cursor = expression minimum cursor) ∧
          statementWith (unfolded below depth) cursor = statement cursor) ∧
    (∀ cursor : Cursor, ∃ count ≤ (Token.beforeEnd cursor.tokens).length,
      Rounds cursor count (Parsing.ofCursor cursor)) ∧
    ((∀ minimum, Advances (expression minimum)) ∧ Advances statement ∧ Advances name ∧
      Advances (pair expression) ∧ ∀ left kind next, Advances (infixStep left kind next)) ∧
    (∀ (minimum : Precedence) (cursor : Cursor) (next : Continuation) (left : Expr),
      Continuation.ofKind? (Token.next cursor.tokens).kind = some next →
        ¬ next.precedence ≤ minimum →
          extend expression minimum left cursor =
            (infixStep left (Token.next cursor.tokens).kind next >>= extend expression minimum)
              cursor) ∧
    (∀ cursor : Cursor, (Token.next cursor.tokens).isEnd = false →
      0 < (Clause.read cursor).size ∧
        (Clause.read cursor).size ≤ (Token.beforeEnd cursor.tokens).length) ∧
    (∀ (request : Request) (cursor : Cursor),
      (request.parser cursor).consumed ≤ (Token.beforeEnd cursor.tokens).length) ∧
    (∀ (cursor : Cursor) (call : Call), Makes statementWith cursor call →
      call.cursor.tokens <:+ cursor.tokens) ∧
    (∀ call inner : Call, call.Makes inner →
      inner.cursor.tokens <:+ call.cursor.tokens ∧
        inner.cursor.tokens.length < call.cursor.tokens.length) ∧
    ∀ (call : Call) (calls : List Call), List.IsChain Call.Makes (call :: calls) →
      calls.length ≤ call.cursor.tokens.length := by
  refine ⟨?_, exists_rounds, ?_, ?_, ?_, consumed_le_length_beforeEnd, ?_, ?_, ?_⟩
  · intro below depth cursor ample
    exact ⟨unfolded_eq_expression below ample, statementWith_unfolded below ample⟩
  · exact ⟨.expression, .statement, .name, .pair, fun left kind next =>
      (Advances.expect kind).bind _⟩
  · intro minimum cursor next left announced strong
    exact extend_of_strong announced strong left
  · intro cursor goesOn
    obtain ⟨positive, split⟩ := length_beforeEnd_of_clause goesOn
    exact ⟨positive, split ▸ Nat.le_add_right _ _⟩
  · intro cursor call made
    exact made.suffix_of_statement
  · intro call inner made
    exact made.suffix_and_length_lt
  · intro call calls chain
    exact length_le_of_isChain chain

end Parser

end Ember
