/-!
# Tokens

A token is a kind together with the place of its text in the source. Every kind
knows the text by which it is shown; for all but an unterminated string and the
end of the input that is the very text it was read from.
-/

namespace Ember

/-- The words that the language keeps for itself. -/
inductive Keyword where
  | fnWord
  | letWord
  | trueWord
  | falseWord
  | ifWord
  | elseWord
  | returnWord
  deriving DecidableEq, Repr

namespace Keyword

/-- The spelling of a keyword. -/
def text : Keyword → String
  | .fnWord => "fn"
  | .letWord => "let"
  | .trueWord => "true"
  | .falseWord => "false"
  | .ifWord => "if"
  | .elseWord => "else"
  | .returnWord => "return"

/-- All keywords. -/
def all : List Keyword :=
  [.fnWord, .letWord, .trueWord, .falseWord, .ifWord, .elseWord, .returnWord]

/-- The keyword with that spelling, if there is one. -/
def ofText? (word : String) : Option Keyword :=
  all.find? fun keyword => keyword.text == word

@[simp] theorem mem_all (keyword : Keyword) : keyword ∈ all := by
  cases keyword <;> decide

@[simp] theorem ofText?_text (keyword : Keyword) : ofText? keyword.text = some keyword := by
  cases keyword <;> decide

theorem text_of_ofText? {word : String} {keyword : Keyword}
    (found : ofText? word = some keyword) : keyword.text = word := by
  simpa using List.find?_some found

end Keyword

/-- The operators and the punctuation of the language. -/
inductive Symbol where
  | assign
  | plus
  | minus
  | bang
  | asterisk
  | slash
  | equal
  | notEqual
  | greater
  | less
  | comma
  | colon
  | semicolon
  | leftParen
  | rightParen
  | leftBrace
  | rightBrace
  | leftBracket
  | rightBracket
  deriving DecidableEq, Repr

namespace Symbol

/-- The spelling of a symbol. -/
def text : Symbol → String
  | .assign => "="
  | .plus => "+"
  | .minus => "-"
  | .bang => "!"
  | .asterisk => "*"
  | .slash => "/"
  | .equal => "=="
  | .notEqual => "!="
  | .greater => ">"
  | .less => "<"
  | .comma => ","
  | .colon => ":"
  | .semicolon => ";"
  | .leftParen => "("
  | .rightParen => ")"
  | .leftBrace => "\x7b"
  | .rightBrace => "\x7d"
  | .leftBracket => "["
  | .rightBracket => "]"

/-- The symbol that is spelled with this one character. -/
def ofChar? : Char → Option Symbol
  | '=' => some .assign
  | '+' => some .plus
  | '-' => some .minus
  | '!' => some .bang
  | '*' => some .asterisk
  | '/' => some .slash
  | '>' => some .greater
  | '<' => some .less
  | ',' => some .comma
  | ':' => some .colon
  | ';' => some .semicolon
  | '(' => some .leftParen
  | ')' => some .rightParen
  | '\x7b' => some .leftBrace
  | '\x7d' => some .rightBrace
  | '[' => some .leftBracket
  | ']' => some .rightBracket
  | _ => none

/-- The symbol that is spelled with these two characters. -/
def ofPair? : Char → Char → Option Symbol
  | '=', '=' => some .equal
  | '!', '=' => some .notEqual
  | _, _ => none

end Symbol

/-- Why a piece of the source is no token of the language. -/
inductive LexicalFault where
  /-- A character that begins no token. -/
  | illegalCharacter (char : Char)
  /-- A string literal without a closing quote. -/
  | unterminatedString
  deriving DecidableEq, Repr

namespace LexicalFault

/-- The wording of a lexical fault. -/
def message : LexicalFault → String
  | .illegalCharacter char => "illegal character '" ++ char.toString ++ "'"
  | .unterminatedString => "unterminated string literal"

end LexicalFault

/-- What a token is, whatever its place. -/
inductive TokenKind where
  | illegal (fault : LexicalFault)
  | identifier (name : String)
  | integer (digits : String)
  | string (content : String)
  | symbol (sign : Symbol)
  | keyword (reserved : Keyword)
  | endOfInput
  deriving DecidableEq, Repr

namespace TokenKind

/-- The text by which a token is shown. -/
def text : TokenKind → String
  | .illegal (.illegalCharacter char) => char.toString
  | .illegal .unterminatedString => "\""
  | .identifier name => name
  | .integer digits => digits
  | .string content => "\"" ++ content ++ "\""
  | .symbol sign => sign.text
  | .keyword reserved => reserved.text
  | .endOfInput => "end of input"

/-- A word is a keyword if it is spelled like one, and a name otherwise. -/
def ofWord (word : String) : TokenKind :=
  match Keyword.ofText? word with
  | some reserved => .keyword reserved
  | none => .identifier word

@[simp] theorem text_ofWord (word : String) : (ofWord word).text = word := by
  unfold ofWord
  split
  · next found => exact Keyword.text_of_ofText? found
  · rfl

end TokenKind

/-- A token: its kind, the line on which it begins (counted from one), and the
byte offsets at which its text begins and ends. -/
structure Token where
  kind : TokenKind
  line : Nat
  start : Nat
  stop : Nat
  deriving DecidableEq, Repr

namespace Token

/-- The end of an input that holds nothing. -/
def emptyEnd : Token := ⟨.endOfInput, 1, 0, 0⟩

/-- The token that stands first; beyond the last token the input has ended. -/
def next (tokens : List Token) : Token :=
  tokens.headD emptyEnd

@[simp] theorem next_nil : next [] = emptyEnd := rfl

@[simp] theorem next_cons (token : Token) (rest : List Token) : next (token :: rest) = token := rfl

/-- Whether a token is the end of the input. -/
def isEnd (token : Token) : Bool :=
  token.kind == .endOfInput

end Token

end Ember
