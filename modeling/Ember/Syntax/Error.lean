import Ember.Token.Basic

/-!
# Syntax errors

Every error blames one token. What the token is decides the class of the error:
an illegal token makes it a lexical one, and the end of the input a premature
end.
-/

namespace Ember

/-- What the grammar allows at a place where another token was found. -/
inductive Expectation where
  | token (kind : TokenKind)
  | identifier
  | expression
  deriving DecidableEq, Repr

namespace Expectation

/-- The wording of an expectation. -/
def text : Expectation → String
  | .token kind => "'" ++ kind.text ++ "'"
  | .identifier => "identifier"
  | .expression => "expression"

end Expectation

/-- Why a token list is no program. -/
inductive SyntaxError where
  /-- The blamed token is illegal. -/
  | lexical (fault : LexicalFault) (line : Nat)
  /-- The grammar allows only something else here. -/
  | unexpectedToken (expected : Expectation) (got : TokenKind) (line : Nat)
  /-- The input ends too early. -/
  | prematureEnd (expected : Expectation) (line : Nat)
  /-- No expression begins with this token. -/
  | noOperand (got : TokenKind) (line : Nat)
  /-- A numeral denotes a number outside the range. -/
  | integerTooLarge (digits : String) (line : Nat)
  deriving DecidableEq, Repr

namespace SyntaxError

/-- The error at a token that stands where something else is expected. -/
def unexpected (expected : Expectation) (token : Token) : SyntaxError :=
  match token.kind with
  | .illegal fault => .lexical fault token.line
  | .endOfInput => .prematureEnd expected token.line
  | kind => .unexpectedToken expected kind token.line

/-- The error at a token that begins no expression, where one must begin. -/
def missingOperand (token : Token) : SyntaxError :=
  match token.kind with
  | .illegal fault => .lexical fault token.line
  | .endOfInput => .prematureEnd .expression token.line
  | kind => .noOperand kind token.line

/-- The line of the blamed token. -/
def line : SyntaxError → Nat
  | .lexical _ line => line
  | .unexpectedToken _ _ line => line
  | .prematureEnd _ line => line
  | .noOperand _ line => line
  | .integerTooLarge _ line => line

/-- Whether the blamed token is illegal. -/
def isLexical : SyntaxError → Bool
  | .lexical _ _ => true
  | _ => false

/-- What is wrong, without the place. -/
def reason : SyntaxError → String
  | .lexical fault _ => fault.message
  | .unexpectedToken expected got _ => "expected " ++ expected.text ++ ", got '" ++ got.text ++ "'"
  | .prematureEnd expected _ => "expected " ++ expected.text ++ ", got end of input"
  | .noOperand got _ => "no prefix parse function for '" ++ got.text ++ "'"
  | .integerTooLarge digits _ => "integer literal " ++ digits ++ " does not fit in 64 bits"

/-- The wording of a syntax error. -/
def message (error : SyntaxError) : String :=
  "line " ++ toString error.line ++ ": " ++ error.reason

@[simp] theorem line_unexpected (expected : Expectation) (token : Token) :
    (unexpected expected token).line = token.line := by
  unfold unexpected
  split <;> rfl

@[simp] theorem line_missingOperand (token : Token) :
    (missingOperand token).line = token.line := by
  unfold missingOperand
  split <;> rfl

end SyntaxError

end Ember
