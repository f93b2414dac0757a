import Ember.Syntax.Parser

/-!
# Equations of the parsers

The loops of the parser, and the choice of an operand, written with the
combinators only. A token is consumed by `expect` alone, so that laws of parsers
need to speak of no other way to consume one.
-/

namespace Ember.Parser

@[simp] theorem peek_bind_apply {α : Type} (next : Token → Parser α) (cursor : Cursor) :
    (peek >>= next) cursor = next (Token.next cursor.tokens) cursor := by
  simp [bind_apply, peek]

theorem advance_bind_apply {α : Type} (next : Unit → Parser α) (cursor : Cursor) :
    (advance >>= next) cursor =
      ⟨(next () (cursor.after 1 cursor.openBraces)).result,
        1 + (next () (cursor.after 1 cursor.openBraces)).consumed,
        (next () (cursor.after 1 cursor.openBraces)).openBraces⟩ := rfl

@[simp] theorem fail_apply {α : Type} (error : SyntaxError) (cursor : Cursor) :
    (fail error : Parser α) cursor = ⟨.error error, 0, cursor.openBraces⟩ := rfl

@[simp] theorem fail_bind {α β : Type} (error : SyntaxError) (next : α → Parser β) :
    (fail error >>= next) = fail error := rfl

/-- A token of the expected kind is consumed. -/
theorem expect_of_eq {kind : TokenKind} {cursor : Cursor}
    (fits : (Token.next cursor.tokens).kind = kind) : expect kind cursor = advance cursor := by
  simp [expect, fits]

/-- Any other token is blamed. -/
theorem expect_of_ne {kind : TokenKind} {cursor : Cursor}
    (fitsNot : (Token.next cursor.tokens).kind ≠ kind) :
    expect kind cursor =
      ⟨.error (.unexpected (.token kind) (Token.next cursor.tokens)), 0, cursor.openBraces⟩ := by
  simp [expect, fitsNot]

/-- Behind a token of the expected kind the next parser goes on. -/
theorem expect_bind_of_eq {α : Type} {kind : TokenKind} {cursor : Cursor}
    (fits : (Token.next cursor.tokens).kind = kind) (next : Unit → Parser α) :
    (expect kind >>= next) cursor = (advance >>= next) cursor := by
  simp only [bind_apply, expect_of_eq fits]

theorem expect_bind_of_ne {α : Type} {kind : TokenKind} {cursor : Cursor}
    (fitsNot : (Token.next cursor.tokens).kind ≠ kind) (next : Unit → Parser α) :
    (expect kind >>= next) cursor =
      ⟨.error (.unexpected (.token kind) (Token.next cursor.tokens)), 0, cursor.openBraces⟩ := by
  simp only [bind_apply, expect_of_ne fitsNot]

/-- A kind that is not the end of the input stands only before a rest. -/
theorem exists_cons_of_next {tokens : List Token} {kind : TokenKind}
    (fits : (Token.next tokens).kind = kind) (proper : kind ≠ .endOfInput) :
    ∃ token rest, tokens = token :: rest ∧ token.kind = kind := by
  cases tokens with
  | nil => exact absurd fits.symm proper
  | cons token rest => exact ⟨token, rest, rfl, fits⟩

/-- The choice of a name. -/
theorem name_eq :
    name = (do
      let token ← peek
      match token.kind with
      | .identifier name => do
        expect (.identifier name)
        return name
      | _ => fail (.unexpected .identifier token)) := by
  funext cursor
  rw [name, peek_bind_apply, peek_bind_apply]
  cases found : (Token.next cursor.tokens).kind with
  | identifier name => exact (expect_bind_of_eq found _).symm
  | illegal | integer | string | symbol | keyword | endOfInput => rfl

/-- One round of a sequence. -/
theorem sequence_eq {α : Type} (element : Parser α) {separator terminator : TokenKind}
    (properSeparator : separator ≠ .endOfInput) (properTerminator : terminator ≠ .endOfInput) :
    sequence element separator terminator = (do
      let token ← peek
      if token.kind = terminator then
        expect terminator
        return []
      else if token.isEnd then
        fail (.unexpected (.token terminator) token)
      else
        let first ← element
        let token ← peek
        if token.kind = separator then
          expect separator
          let rest ← sequence element separator terminator
          return first :: rest
        else if token.kind = terminator then
          expect terminator
          return [first]
        else
          fail (.unexpected (.token separator) token)) := by
  funext cursor
  rw [sequence, peek_bind_apply]
  by_cases ended : (Token.next cursor.tokens).kind = terminator
  · simp [ended, expect_bind_of_eq ended, advance_bind_apply]
  · simp only [ended, if_false]
    by_cases premature : (Token.next cursor.tokens).isEnd = true
    · simp [premature]
    · simp only [premature, if_false, Bool.false_eq_true, bind_apply element]
      rcases element cursor with ⟨_ | first, consumed, openBraces⟩
      · rfl
      · simp only [peek_bind_apply]
        split
        · next remaining =>
            simp [remaining, Token.emptyEnd, properSeparator.symm, properTerminator.symm]
        · next token rest remaining =>
            have atToken : (Token.next (cursor.after consumed openBraces).tokens) = token := by
              simp [remaining]
            have behind : (cursor.after consumed openBraces).after 1 openBraces =
                ⟨rest, openBraces⟩ := by
              simp [Cursor.after, remaining]
            simp only [atToken]
            by_cases separated : token.kind = separator
            · rw [if_pos separated, if_pos separated,
                expect_bind_of_eq (by rw [atToken]; exact separated), advance_bind_apply,
                Cursor.openBraces_after, behind, bind_apply]
              rcases sequence element separator terminator ⟨rest, openBraces⟩ with
                ⟨_ | others, further, stillOpen⟩
              · simp [Except.map, Nat.add_assoc]
              · simp [Except.map, Nat.add_assoc]
            · rw [if_neg separated, if_neg separated]
              by_cases terminated : token.kind = terminator
              · rw [if_pos terminated, if_pos terminated,
                  expect_bind_of_eq (by rw [atToken]; exact terminated), advance_bind_apply]
                simp
              · simp [terminated]

section Productions

variable (expression : Precedence → Parser Expr)

/-- One round of the extension of a left operand. -/
theorem extend_eq (minimum : Precedence) (left : Expr) :
    extend expression minimum left = (do
      let token ← peek
      match Continuation.ofKind? token.kind with
      | none => return left
      | some next =>
        if next.precedence ≤ minimum then
          return left
        else
          expect token.kind
          let extended ← continuation expression left next
          extend expression minimum extended) := by
  funext cursor
  rcases cursor with ⟨tokens, openBraces⟩
  cases tokens with
  | nil =>
      rw [extend, peek_bind_apply]
      rfl
  | cons token rest =>
      rw [extend, peek_bind_apply, Token.next_cons]
      cases announced : Continuation.ofKind? token.kind with
      | none => rfl
      | some next =>
          by_cases weak : next.precedence ≤ minimum
          · simp [weak]
          · simp only [weak, if_false]
            rw [expect_bind_of_eq (by rfl), advance_bind_apply, bind_apply]
            simp only [Cursor.after, List.drop_succ_cons, List.drop_zero]
            rcases continuation expression left next ⟨rest, openBraces⟩ with
              ⟨_ | extended, consumed, stillOpen⟩
            · rfl
            · simp [Nat.add_assoc]

/-- The choice of an operand by its first token. -/
theorem operand_eq :
    operand expression = (do
      let token ← peek
      match token.kind with
      | .identifier name => do
        expect (.identifier name)
        return .identifier name
      | .integer digits => do
        expect (.integer digits)
        numeral digits token.line
      | .string content => do
        expect (.string content)
        return .string content
      | .keyword .trueWord => do
        expect (.keyword .trueWord)
        return .boolean true
      | .keyword .falseWord => do
        expect (.keyword .falseWord)
        return .boolean false
      | .symbol .bang => do
        expect (.symbol .bang)
        unary expression .not
      | .symbol .minus => do
        expect (.symbol .minus)
        unary expression .negate
      | .symbol .leftParen => do
        expect (.symbol .leftParen)
        grouped expression
      | .symbol .leftBracket => do
        expect (.symbol .leftBracket)
        array expression
      | .symbol .leftBrace => do
        expect (.symbol .leftBrace)
        hash expression
      | .keyword .ifWord => do
        expect (.keyword .ifWord)
        conditional expression
      | .keyword .fnWord => do
        expect (.keyword .fnWord)
        function expression
      | _ => fail (.missingOperand token)) := by
  funext cursor
  rw [operand, peek_bind_apply, peek_bind_apply]
  cases found : (Token.next cursor.tokens).kind with
  | illegal fault => rfl
  | identifier name => exact (expect_bind_of_eq found _).symm
  | integer digits => exact (expect_bind_of_eq found _).symm
  | string content => exact (expect_bind_of_eq found _).symm
  | symbol sign =>
      cases sign <;> first | rfl | exact (expect_bind_of_eq found _).symm
  | keyword reserved =>
      cases reserved <;> first | rfl | exact (expect_bind_of_eq found _).symm
  | endOfInput => rfl

/-- The choice of an `else` branch. -/
theorem alternative_eq :
    alternative expression = (do
      let token ← peek
      if token.kind = .keyword .elseWord then
        expect (.keyword .elseWord)
        let block ← block expression
        return some block
      else
        return none) := by
  funext cursor
  rw [alternative, peek_bind_apply, peek_bind_apply]
  by_cases branches : (Token.next cursor.tokens).kind = .keyword .elseWord
  · rw [if_pos branches, if_pos branches, expect_bind_of_eq branches]
  · rw [if_neg branches, if_neg branches]

end Productions

end Ember.Parser
