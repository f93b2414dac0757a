import Ember.Text.Quoted
import Ember.Token.Basic

/-!
# Described tokens

Names for the kinds of tokens, and descriptions that show a kind together with
what it carries. They are meant for the log, where every description takes one
line.
-/

namespace Ember

/-- The name of a symbol. -/
def Symbol.label : Symbol → String
  | .assign => "Assign"
  | .plus => "Plus"
  | .minus => "Minus"
  | .bang => "Bang"
  | .asterisk => "Asterisk"
  | .slash => "Slash"
  | .equal => "Equal"
  | .notEqual => "NotEqual"
  | .greater => "GreaterThan"
  | .less => "LessThan"
  | .comma => "Comma"
  | .colon => "Colon"
  | .semicolon => "SemiColon"
  | .leftParen => "LParen"
  | .rightParen => "RParen"
  | .leftBrace => "LBrace"
  | .rightBrace => "RBrace"
  | .leftBracket => "LBracket"
  | .rightBracket => "RBracket"

/-- The name of a keyword. -/
def Keyword.label : Keyword → String
  | .fnWord => "Function"
  | .letWord => "Let"
  | .trueWord => "True"
  | .falseWord => "False"
  | .ifWord => "If"
  | .elseWord => "Else"
  | .returnWord => "Return"

/-- A description of a lexical fault. -/
def LexicalFault.describe : LexicalFault → String
  | .illegalCharacter char => "IllegalCharacter(" ++ Text.quotedChar char ++ ")"
  | .unterminatedString => "UnterminatedString"

namespace TokenKind

/-- The name of a kind of tokens. -/
def label : TokenKind → String
  | .illegal _ => "Illegal"
  | .identifier _ => "Ident"
  | .integer _ => "Int"
  | .string _ => "String"
  | .symbol sign => sign.label
  | .keyword reserved => reserved.label
  | .endOfInput => "Eof"

/-- The name of a kind, and in parentheses what a token of that kind carries. -/
def describe (kind : TokenKind) : String :=
  match kind with
  | .illegal fault => kind.label ++ "(" ++ fault.describe ++ ")"
  | .identifier content | .integer content | .string content =>
    kind.label ++ "(" ++ Text.quoted content ++ ")"
  | .symbol _ | .keyword _ | .endOfInput => kind.label

end TokenKind

end Ember
