import Ember.Syntax.Equality
import Ember.Syntax.Parser
import Ember.Syntax.Printer
import Ember.Token.Lexer

/-!
# Parsing programs

A program is parsed clause by clause. A clause is a statement with the semicolon
after it; the last one may go without. A clause that does not fit the grammar
gives one error and ends at the semicolon that would have ended it: the first
one outside all braces. The next clause then begins afresh, so that one faulty
clause never hides or changes the errors of another.
-/

namespace Ember

/-- What the parser reports while it goes through a program. -/
inductive ParseEvent where
  /-- A token was consumed. -/
  | consumed (token : Token)
  /-- A statement of the program was parsed. -/
  | parsed (statement : Stmt)
  deriving DecidableEq, Repr

namespace ParseEvent

/-- The text of an event. -/
def render : ParseEvent → String
  | .consumed token => "token " ++ token.kind.text
  | .parsed statement => "statement " ++ statement.render

/-- The statement that an event reports, if it reports one. -/
def statement? : ParseEvent → Option Stmt
  | .consumed _ => none
  | .parsed statement => some statement

end ParseEvent

/-- The depth of braces after one more token. A closing brace too many is
passed over. -/
def braceDepth (depth : Nat) (token : Token) : Nat :=
  match token.kind with
  | .symbol .leftBrace => depth + 1
  | .symbol .rightBrace => depth - 1
  | _ => depth

/-- The number of tokens up to and including the first semicolon outside all
braces, or up to the end of the input. -/
def clauseLength (depth : Nat) : List Token → Nat
  | [] => 0
  | token :: rest =>
    if token.isEnd then 0
    else if token.kind = .symbol .semicolon ∧ depth = 0 then 1
    else 1 + clauseLength (braceDepth depth token) rest

/-- What comes of one clause of a program. -/
structure Clause where
  /-- The statement, if one was parsed. -/
  statement : Option Stmt
  /-- The error, if there was one. -/
  error : Option SyntaxError
  /-- The number of tokens that parsing the statement consumed. -/
  parsed : Nat
  /-- The number of tokens after these that belong to the clause. -/
  skipped : Nat
  /-- The number of braces that are still counted as open. -/
  openBraces : Nat
  deriving DecidableEq, Repr

namespace Clause

/-- The number of tokens of a clause. -/
def size (clause : Clause) : Nat :=
  clause.parsed + clause.skipped

/-- The clause at a cursor. The count of open braces begins anew. It is what the
statement left open when the rest of a faulty clause is skipped. -/
def read (cursor : Cursor) : Clause :=
  match Parser.statement { cursor with openBraces := 0 } with
  | ⟨.error error, consumed, openBraces⟩ =>
    ⟨none, some error, consumed, clauseLength openBraces (cursor.tokens.drop consumed), 0⟩
  | ⟨.ok statement, consumed, openBraces⟩ =>
    let rest := cursor.tokens.drop consumed
    let token := Token.next rest
    if token.kind = .symbol .semicolon then
      ⟨some statement, none, consumed, 1, openBraces⟩
    else if token.isEnd then
      ⟨some statement, none, consumed, 0, openBraces⟩
    else
      let error := .unexpected (.token (.symbol .semicolon)) token
      ⟨some statement, some error, consumed, clauseLength openBraces rest, 0⟩

/-- The events of a clause that was read from the front of the tokens. -/
def events (clause : Clause) (tokens : List Token) : List ParseEvent :=
  (tokens.take clause.parsed).map .consumed ++
    clause.statement.toList.map .parsed ++
    ((tokens.drop clause.parsed).take clause.skipped).map .consumed

theorem clauseLength_pos {depth : Nat} {token : Token} {rest : List Token}
    (goesOn : token.isEnd = false) : 0 < clauseLength depth (token :: rest) := by
  unfold clauseLength
  split
  · simp_all
  · split <;> omega

/-- A clause takes at least one token, even if it fails on its first one. -/
theorem size_read_pos {token : Token} {rest : List Token} {openBraces : Nat}
    (goesOn : token.isEnd = false) : 0 < (read ⟨token :: rest, openBraces⟩).size := by
  unfold read size
  split
  · next consumed _ _ =>
      cases consumed with
      | zero => simpa using clauseLength_pos goesOn
      | succ consumed => simp only; omega
  · next consumed _ _ =>
      cases consumed with
      | zero =>
          simp only [List.drop_zero, Token.next_cons, goesOn]
          split
          · simp
          · simpa using clauseLength_pos goesOn
      | succ consumed =>
          simp only
          split
          · simp
          · split <;> (simp only; omega)

end Clause

/-- What comes of a whole program. -/
structure Parsing where
  /-- The events, in order. -/
  events : List ParseEvent
  /-- The statements of the clauses, in order. -/
  statements : List Stmt
  /-- The errors, in order. -/
  errors : List SyntaxError
  deriving DecidableEq, Repr

namespace Parsing

/-- The statements that the events report, in order. -/
def reported (parsing : Parsing) : List Stmt :=
  parsing.events.filterMap ParseEvent.statement?

/-- The program, if there was no error. -/
def result (parsing : Parsing) : Except (List SyntaxError) Program :=
  match parsing.errors with
  | [] => .ok parsing.statements
  | errors => .error errors

/-- Parses all that is left at a cursor. The end of the input is reported once, at
the end. -/
def ofCursor : Cursor → Parsing
  | ⟨[], _⟩ => ⟨[.consumed .emptyEnd], [], []⟩
  | ⟨token :: rest, openBraces⟩ =>
    if token.isEnd then
      ⟨[.consumed token], [], []⟩
    else
      let cursor : Cursor := ⟨token :: rest, openBraces⟩
      let clause := Clause.read cursor
      let following := ofCursor (cursor.after clause.size clause.openBraces)
      ⟨clause.events (token :: rest) ++ following.events,
        clause.statement.toList ++ following.statements,
        clause.error.toList ++ following.errors⟩
termination_by cursor => cursor.tokens.length
decreasing_by
  rename_i goesOn
  have positive : 0 < (Clause.read ⟨token :: rest, openBraces⟩).size :=
    Clause.size_read_pos (by simpa using goesOn)
  simp only [Cursor.after, List.length_drop, List.length_cons]
  omega

/-- Parses a token list. -/
def ofTokens (tokens : List Token) : Parsing :=
  ofCursor tokens

/-- Parses a source text. -/
def ofSource (source : String) : Parsing :=
  ofTokens (lex source)

end Parsing

end Ember
