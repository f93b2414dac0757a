import Ember.Syntax.Error
import Ember.Syntax.Precedence

/-!
# Parsing expressions and statements

A parser looks at a token list, and answers with a tree or with an error and
with the number of tokens that it consumed. The tokens after these are what the
next parser sees, so no parser can lose a token or read one twice. A token that
does not fit is not consumed.

Along with the tokens goes a count of open braces. Blocks and hash literals keep
it, and no parser here looks at it: it tells how deep an error is nested once the
statement has failed.

The productions are parametrised by the parser for the expressions inside them.
`expression` closes the loop: a production consumes a token before it asks for an
inner expression, so the number of tokens bounds the nesting.
-/

namespace Ember

/-- Where a parser stands. -/
structure Cursor where
  /-- The tokens that are not consumed yet. -/
  tokens : List Token
  /-- The number of braces that are counted as open. -/
  openBraces : Nat
  deriving DecidableEq, Repr

/-- A new parser stands before all tokens, and no brace is open. -/
instance : Coe (List Token) Cursor := ⟨fun tokens => ⟨tokens, 0⟩⟩

/-- What a parser makes of the tokens at a cursor. -/
structure Reply (α : Type) where
  /-- A tree, or the error at the first token that fits nowhere. -/
  result : Except SyntaxError α
  /-- The number of tokens that were consumed. -/
  consumed : Nat
  /-- The number of braces that are counted as open afterwards. -/
  openBraces : Nat

namespace Cursor

/-- Where a parser stands after it has consumed some tokens. -/
def after (cursor : Cursor) (consumed openBraces : Nat) : Cursor :=
  ⟨cursor.tokens.drop consumed, openBraces⟩

@[simp] theorem tokens_after (cursor : Cursor) (consumed openBraces : Nat) :
    (cursor.after consumed openBraces).tokens = cursor.tokens.drop consumed := rfl

@[simp] theorem openBraces_after (cursor : Cursor) (consumed openBraces : Nat) :
    (cursor.after consumed openBraces).openBraces = openBraces := rfl

@[simp] theorem after_zero (cursor : Cursor) : cursor.after 0 cursor.openBraces = cursor := rfl

@[simp] theorem after_after (cursor : Cursor) (consumed further openBraces stillOpen : Nat) :
    (cursor.after consumed openBraces).after further stillOpen =
      cursor.after (consumed + further) stillOpen := by
  simp [after, List.drop_drop]

end Cursor

/-- A parser of trees of one type. -/
def Parser (α : Type) : Type := Cursor → Reply α

namespace Parser

instance : Monad Parser where
  pure value := fun cursor => ⟨.ok value, 0, cursor.openBraces⟩
  bind parser continuation := fun cursor =>
    match parser cursor with
    | ⟨.error error, consumed, openBraces⟩ => ⟨.error error, consumed, openBraces⟩
    | ⟨.ok value, consumed, openBraces⟩ =>
      let following := continuation value (cursor.after consumed openBraces)
      ⟨following.result, consumed + following.consumed, following.openBraces⟩

theorem bind_apply {α β : Type} (parser : Parser α) (next : α → Parser β) (cursor : Cursor) :
    (parser >>= next) cursor =
      match parser cursor with
      | ⟨.error error, consumed, openBraces⟩ => ⟨.error error, consumed, openBraces⟩
      | ⟨.ok value, consumed, openBraces⟩ =>
        ⟨(next value (cursor.after consumed openBraces)).result,
          consumed + (next value (cursor.after consumed openBraces)).consumed,
          (next value (cursor.after consumed openBraces)).openBraces⟩ := rfl

@[simp] theorem pure_apply {α : Type} (value : α) (cursor : Cursor) :
    (pure value : Parser α) cursor = ⟨.ok value, 0, cursor.openBraces⟩ := rfl

theorem map_id_of_parsers {α : Type} (parser : Parser α) : id <$> parser = parser := by
  funext cursor
  show (parser >>= fun value => pure (id value)) cursor = parser cursor
  rw [bind_apply]
  split <;> simp_all

theorem pure_bind_of_parsers {α β : Type} (value : α) (next : α → Parser β) :
    pure value >>= next = next value := by
  funext cursor
  simp [bind_apply]

/-- Parsers in a row consume what they consume together, however they are
grouped. -/
theorem bind_assoc_of_parsers {α β γ : Type} (parser : Parser α) (first : α → Parser β)
    (second : β → Parser γ) :
    parser >>= first >>= second = parser >>= fun value => first value >>= second := by
  funext cursor
  simp only [bind_apply]
  rcases parser cursor with ⟨_ | value, consumed, openBraces⟩
  · rfl
  · dsimp only
    rcases first value (cursor.after consumed openBraces) with ⟨_ | middle, further, stillOpen⟩
    · rfl
    · simp [Nat.add_assoc]

instance : LawfulMonad Parser :=
  LawfulMonad.mk' Parser map_id_of_parsers pure_bind_of_parsers bind_assoc_of_parsers

/-- Looks at the next token without consuming it. -/
def peek : Parser Token := fun cursor =>
  ⟨.ok (Token.next cursor.tokens), 0, cursor.openBraces⟩

/-- Consumes the next token, whatever it is. -/
def advance : Parser Unit := fun cursor =>
  ⟨.ok (), 1, cursor.openBraces⟩

/-- Fails without consuming anything. -/
def fail {α : Type} (error : SyntaxError) : Parser α := fun cursor =>
  ⟨.error error, 0, cursor.openBraces⟩

/-- Counts one more brace as open. -/
def openBrace : Parser Unit := fun cursor =>
  ⟨.ok (), 0, cursor.openBraces + 1⟩

/-- Counts one brace less as open, if one is. -/
def closeBrace : Parser Unit := fun cursor =>
  ⟨.ok (), 0, cursor.openBraces - 1⟩

/-- Consumes a token of the given kind. -/
def expect (kind : TokenKind) : Parser Unit := do
  let token ← peek
  if token.kind = kind then
    advance
  else
    fail (.unexpected (.token kind) token)

/-- Consumes a name. -/
def name : Parser String := do
  let token ← peek
  match token.kind with
  | .identifier name => do
    advance
    return name
  | _ => fail (.unexpected .identifier token)

/-- Elements with a separator between them, up to and including the terminator.
After the last element one more separator may stand. -/
def sequence {α : Type} (element : Parser α) (separator terminator : TokenKind) :
    Parser (List α) := fun cursor =>
  let token := Token.next cursor.tokens
  if token.kind = terminator then
    ⟨.ok [], 1, cursor.openBraces⟩
  else if token.isEnd then
    ⟨.error (.unexpected (.token terminator) token), 0, cursor.openBraces⟩
  else
    match element cursor with
    | ⟨.error error, consumed, openBraces⟩ => ⟨.error error, consumed, openBraces⟩
    | ⟨.ok first, consumed, openBraces⟩ =>
      match remaining : cursor.tokens.drop consumed with
      | [] => ⟨.error (.unexpected (.token separator) .emptyEnd), consumed, openBraces⟩
      | token :: rest =>
        if token.kind = separator then
          let following := sequence element separator terminator ⟨rest, openBraces⟩
          ⟨following.result.map (first :: ·), consumed + 1 + following.consumed,
            following.openBraces⟩
        else if token.kind = terminator then
          ⟨.ok [first], consumed + 1, openBraces⟩
        else
          ⟨.error (.unexpected (.token separator) token), consumed, openBraces⟩
termination_by cursor => cursor.tokens.length
decreasing_by
  have lengths := congrArg List.length remaining
  simp only [List.length_drop, List.length_cons] at lengths
  omega

/-- Elements up to the closing brace, from behind the opening one. When an
element fails the braces around it stay counted. -/
def braced {α : Type} (element : Parser α) (separator : TokenKind) : Parser (List α) := do
  openBrace
  let elements ← sequence element separator (.symbol .rightBrace)
  closeBrace
  return elements

section Productions

variable (expression : Precedence → Parser Expr)

/-- Looks for the semicolon that must follow; it is left to separate the
statements. -/
def terminated : Parser Unit := do
  let token ← peek
  if token.kind = .symbol .semicolon then
    return ()
  else
    fail (.unexpected (.token (.symbol .semicolon)) token)

/-- `let name = value`, with a semicolon after it. -/
def binding : Parser Stmt := do
  expect (.keyword .letWord)
  let name ← name
  expect (.symbol .assign)
  let value ← expression .lowest
  terminated
  return .binding name value

/-- `return value`, with a semicolon after it. -/
def leaving : Parser Stmt := do
  expect (.keyword .returnWord)
  let value ← expression .lowest
  terminated
  return .leaving value

/-- A statement. An expression needs no semicolon after it. -/
def statementWith : Parser Stmt := do
  let token ← peek
  match token.kind with
  | .keyword .letWord => binding expression
  | .keyword .returnWord => leaving expression
  | _ => do
    let value ← expression .lowest
    return .expression value

/-- Statements in braces, separated by semicolons. -/
def block : Parser Block := do
  expect (.symbol .leftBrace)
  braced (statementWith expression) (.symbol .semicolon)

/-- The number that a numeral denotes. -/
def numeral (digits : String) (line : Nat) : Parser Expr :=
  match Integer.ofDigits? digits with
  | some value => return .integer value
  | none => fail (.integerTooLarge digits line)

/-- An operator and the operand after it. -/
def unary (operator : UnaryOperator) : Parser Expr := do
  let operand ← expression .unary
  return .unary operator operand

/-- An expression in parentheses, from behind the first one. -/
def grouped : Parser Expr := do
  let inner ← expression .lowest
  expect (.symbol .rightParen)
  return inner

/-- An array literal, from behind its bracket. -/
def array : Parser Expr := do
  let elements ← sequence (expression .lowest) (.symbol .comma) (.symbol .rightBracket)
  return .array elements

/-- A key, a colon and a value. -/
def pair : Parser (Expr × Expr) := do
  let key ← expression .lowest
  expect (.symbol .colon)
  let value ← expression .lowest
  return (key, value)

/-- A hash literal, from behind its brace. -/
def hash : Parser Expr := do
  let pairs ← braced (pair expression) (.symbol .comma)
  return .hash pairs

/-- An `else` and its block, if there is one. -/
def alternative : Parser (Option Block) := do
  let token ← peek
  if token.kind = .keyword .elseWord then
    advance
    let block ← block expression
    return some block
  else
    return none

/-- A condition in parentheses and the blocks to choose from. -/
def conditional : Parser Expr := do
  expect (.symbol .leftParen)
  let condition ← expression .lowest
  expect (.symbol .rightParen)
  let consequence ← block expression
  let alternative ← alternative expression
  return .conditional condition consequence alternative

/-- A list of parameters in parentheses, and the body of the function. -/
def function : Parser Expr := do
  expect (.symbol .leftParen)
  let parameters ← sequence name (.symbol .comma) (.symbol .rightParen)
  let body ← block expression
  return .function parameters body

/-- The first part of an expression, up to where a continuation may follow. -/
def operand : Parser Expr := do
  let token ← peek
  match token.kind with
  | .identifier name => do
    advance
    return .identifier name
  | .integer digits => do
    advance
    numeral digits token.line
  | .string content => do
    advance
    return .string content
  | .keyword .trueWord => do
    advance
    return .boolean true
  | .keyword .falseWord => do
    advance
    return .boolean false
  | .symbol .bang => do
    advance
    unary expression .not
  | .symbol .minus => do
    advance
    unary expression .negate
  | .symbol .leftParen => do
    advance
    grouped expression
  | .symbol .leftBracket => do
    advance
    array expression
  | .symbol .leftBrace => do
    advance
    hash expression
  | .keyword .ifWord => do
    advance
    conditional expression
  | .keyword .fnWord => do
    advance
    function expression
  | _ => fail (.missingOperand token)

/-- What follows a left operand, from behind the token that announces it. -/
def continuation (left : Expr) : Continuation → Parser Expr
  | .operation operator => do
    let right ← expression operator.precedence
    return .binary operator left right
  | .call => do
    let arguments ← sequence (expression .lowest) (.symbol .comma) (.symbol .rightParen)
    return .call left arguments
  | .index => do
    let position ← expression .lowest
    expect (.symbol .rightBracket)
    return .index left position

/-- Extends a left operand for as long as the next token binds more strongly
than the minimum. -/
def extend (minimum : Precedence) (left : Expr) : Parser Expr := fun cursor =>
  match cursor with
  | ⟨[], openBraces⟩ => ⟨.ok left, 0, openBraces⟩
  | ⟨token :: rest, openBraces⟩ =>
    match Continuation.ofKind? token.kind with
    | none => ⟨.ok left, 0, openBraces⟩
    | some next =>
      if next.precedence ≤ minimum then
        ⟨.ok left, 0, openBraces⟩
      else
        match continuation expression left next ⟨rest, openBraces⟩ with
        | ⟨.error error, consumed, openBraces⟩ => ⟨.error error, 1 + consumed, openBraces⟩
        | ⟨.ok extended, consumed, openBraces⟩ =>
          let following := extend minimum extended ⟨rest.drop consumed, openBraces⟩
          ⟨following.result, 1 + consumed + following.consumed, following.openBraces⟩
termination_by cursor => cursor.tokens.length
decreasing_by
  simp only [List.length_drop, List.length_cons]
  omega

/-- An operand and all that extends it above the minimum. -/
def expressionWith (minimum : Precedence) : Parser Expr := do
  let left ← operand expression
  extend expression minimum left

end Productions

/-- Expressions nested no deeper than the bound. Where the bound is at least the
number of tokens it does not matter: with no tokens left there is no operand. -/
def expressionUpTo : Nat → Precedence → Parser Expr
  | 0, _ => do
    let token ← peek
    fail (.missingOperand token)
  | bound + 1, minimum => expressionWith (expressionUpTo bound) minimum

/-- An expression, extended by what binds more strongly than the minimum. -/
def expression (minimum : Precedence) : Parser Expr := fun cursor =>
  expressionUpTo cursor.tokens.length minimum cursor

/-- A statement. -/
def statement : Parser Stmt :=
  statementWith expression

end Parser

end Ember
