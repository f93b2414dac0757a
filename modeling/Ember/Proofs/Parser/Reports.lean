import Mathlib.Data.List.Forall2
import Ember.Proofs.Grammar.Acceptance
import Ember.Proofs.Parser.Recovery
import Ember.Proofs.Token.Tiling

/-!
# What a parser reports

A parser can be asked for statements and expressions before it goes through the rest as a
program. Whatever it is asked, and whether it succeeds or fails, it reports every token of
the source once and in order: those that it consumes as it consumes them, those that it
skips as it skips them, and the end of the input when the program is through.

A statement of the program is reported between its last token and the token behind it.
-/

namespace Ember

/-- The token that an event reports, if it reports one. -/
def ParseEvent.token? : ParseEvent → Option Token
  | .consumed token => some token
  | .parsed _ => none

@[simp] theorem filterMap_token?_consumed (tokens : List Token) :
    (tokens.map ParseEvent.consumed).filterMap ParseEvent.token? = tokens := by
  simp [List.filterMap_map, Function.comp_def, ParseEvent.token?]

@[simp] theorem filterMap_statement?_consumed (tokens : List Token) :
    (tokens.map ParseEvent.consumed).filterMap ParseEvent.statement? = [] := by
  simp [List.filterMap_map, Function.comp_def, ParseEvent.statement?]

/-- What a parser can be asked for, beside a whole program. -/
inductive Request where
  | statement
  | expression (minimum : Precedence)
  deriving DecidableEq, Repr

/-- The parser that answers a request. An expression is a statement by itself. -/
def Request.parser : Request → Parser Stmt
  | .statement => Parser.statement
  | .expression minimum => Stmt.expression <$> Parser.expression minimum

/-- Every answer to a request has a way through the tokens. -/
theorem Request.walks (request : Request) (cursor : Cursor) :
    (request.parser cursor).Walks cursor := by
  cases request with
  | statement => exact Parser.walks_statement cursor
  | expression minimum =>
      have expressions : Parser.Walks cursor.tokens.length Expr (Parser.expression minimum)
          (Parser.expression minimum) := by
        intro other _
        exact Parser.walks_expression minimum other
      have wrapped := Parser.respects_walks.bind expressions fun value =>
        Parser.respects_walks.pure (Stmt.expression value)
      exact wrapped cursor (Nat.le_refl _)

/-- A parser at work: what it has reported so far, and where it stands. -/
structure Reading where
  events : List ParseEvent
  cursor : Cursor

namespace Reading

/-- A new parser has reported nothing, and stands before all tokens. -/
def start (tokens : List Token) : Reading :=
  ⟨[], tokens⟩

/-- Answers a request. The tokens that are consumed are reported, and the parser goes on
behind them, whether there is a tree or an error. -/
def ask (reading : Reading) (request : Request) : Reading :=
  let reply := request.parser reading.cursor
  ⟨reading.events ++ (reading.cursor.tokens.take reply.consumed).map .consumed,
    reading.cursor.after reply.consumed reply.openBraces⟩

/-- Answers requests, one after the other. -/
def askAll (reading : Reading) (requests : List Request) : Reading :=
  requests.foldl ask reading

/-- What holds while a parser works: the tokens that it has reported and those that are left
make up the source, the end of the input is left, and no statement was reported. -/
structure Keeps (tokens : List Token) (reading : Reading) : Prop where
  whole : reading.events.filterMap ParseEvent.token? ++ reading.cursor.tokens = tokens
  inside : ∀ token ∈ reading.events.filterMap ParseEvent.token?, token.isEnd = false
  silent : reading.events.filterMap ParseEvent.statement? = []

theorem keeps_start (tokens : List Token) : Keeps tokens (start tokens) :=
  ⟨rfl, List.forall_mem_nil _, rfl⟩

/-- One request loses no token and repeats none. -/
theorem Keeps.ask {tokens : List Token} {reading : Reading} (keeps : Keeps tokens reading)
    (request : Request) : Keeps tokens (reading.ask request) := by
  have walk := (request.walks reading.cursor).walk
  refine ⟨?_, ?_, ?_⟩
  · rw [Reading.ask, List.filterMap_append, filterMap_token?_consumed, List.append_assoc,
      Cursor.tokens_after, List.take_append_drop]
    exact keeps.whole
  · rw [Reading.ask, List.filterMap_append, filterMap_token?_consumed, List.forall_mem_append]
    exact ⟨keeps.inside, walk.isEnd_eq_false⟩
  · rw [Reading.ask, List.filterMap_append, filterMap_statement?_consumed, keeps.silent]
    rfl

/-- Neither do any number of requests. -/
theorem Keeps.askAll {tokens : List Token} {reading : Reading} (keeps : Keeps tokens reading)
    (requests : List Request) : Keeps tokens (reading.askAll requests) := by
  induction requests generalizing reading with
  | nil => exact keeps
  | cons request rest ih => exact ih (keeps.ask request)

end Reading

/-- What is reported of a chunk of a program, before the end of the input. Either a
statement is parsed from the tokens at the front, and it is reported behind the last one of
these; or none is parsed, and there are only tokens to report. -/
inductive Reported (ending : Token) : List Token → List ParseEvent → Prop where
  | parsed {taken rest : List Token} {statement : Stmt} {openBraces : Nat} :
      Parser.Takes Parser.statement (taken ++ (rest ++ [ending]) : List Token) taken statement
          ⟨rest ++ [ending], openBraces⟩ →
        Grammar.Derives .statement (taken.map Token.kind) statement →
          Reported ending (taken ++ rest)
            (taken.map .consumed ++ .parsed statement :: rest.map .consumed)
  | failed {chunk : List Token} :
      Parser.Fails Parser.statement (chunk ++ [ending] : List Token) →
        Reported ending chunk (chunk.map .consumed)

/-- Of a chunk all tokens are reported, each once and in order. -/
theorem Reported.filterMap_token? {ending : Token} {chunk : List Token} {events : List ParseEvent}
    (reported : Reported ending chunk events) :
    events.filterMap ParseEvent.token? = chunk := by
  cases reported with
  | parsed =>
      rw [List.filterMap_append, List.filterMap_cons_none rfl, filterMap_token?_consumed,
        filterMap_token?_consumed]
  | failed => exact filterMap_token?_consumed chunk

namespace Clause

/-- What a clause says of its statement is what the parser of statements says. -/
theorem read_of_statement (tokens : List Token) :
    (read tokens).parsed = (Parser.statement tokens).consumed ∧
      (read tokens).statement = (Parser.statement tokens).result.toOption := by
  rw [read]
  rcases Parser.statement tokens with ⟨error | statement, consumed, openBraces⟩
  · exact ⟨rfl, rfl⟩
  · dsimp only
    split
    · exact ⟨rfl, rfl⟩
    · split
      · exact ⟨rfl, rfl⟩
      · exact ⟨rfl, rfl⟩

/-- The events of the first clause report the first chunk. -/
theorem reported_events (tokens : List Token) :
    Reported (Token.ending tokens) (tokens.take (clauseLength 0 tokens))
      ((read tokens).events tokens) := by
  obtain ⟨parsed, parsedStatement⟩ := read_of_statement tokens
  have within : (Parser.statement tokens).consumed ≤ tokens.length :=
    (Parser.walks_statement tokens).walk.length_le
  have chunk : tokens.take (clauseLength 0 tokens) =
      tokens.take (Parser.statement tokens).consumed ++
        (tokens.drop (Parser.statement tokens).consumed).take (read tokens).skipped := by
    rw [← size_read, size, parsed, List.take_add]
  -- A statement is parsed from a chunk alone as it is parsed in its place.
  have closed : hasSemicolon 0 (tokens.take (clauseLength 0 tokens)) ∨
      Token.next [Token.ending tokens] = Token.next (tokens.drop (clauseLength 0 tokens)) :=
    Parsing.hasSemicolon_or_ending tokens
  have alone : Parser.statement
      (tokens.take (clauseLength 0 tokens) ++ [Token.ending tokens] : List Token) =
        Parser.statement tokens := (statement_take_append closed).1
  rw [events, parsed, parsedStatement]
  rw [chunk] at alone ⊢
  generalize (tokens.drop (Parser.statement tokens).consumed).take (read tokens).skipped = rest
    at alone ⊢
  cases reply : Parser.statement tokens with
  | mk result consumed openBraces =>
      rw [reply] at within alone
      cases result with
      | error error =>
          have failed := Reported.failed ⟨error, consumed, openBraces, alone⟩
          rw [List.map_append] at failed
          simpa [Except.toOption] using failed
      | ok statement =>
          have run : Parser.Takes Parser.statement
              (tokens.take consumed ++ (rest ++ [Token.ending tokens]) : List Token)
              (tokens.take consumed) statement ⟨rest ++ [Token.ending tokens], openBraces⟩ := by
            rw [List.append_assoc] at alone
            refine ⟨rfl, alone.trans ?_⟩
            simp [Reply.behind, List.length_take_of_le within]
          have reported := Reported.parsed run (Parser.sound_expression.statementWith run).1
          simpa [Except.toOption] using reported

end Clause

namespace Parsing

/-- The events of a program report its chunks, one after the other, and then the end of the
input. -/
theorem exists_reports (tokens : List Token) :
    ∃ reports, List.Forall₂ (Reported (Token.ending tokens)) (chunks 0 tokens) reports ∧
      (ofTokens tokens).events = reports.flatten ++ [.consumed (Token.ending tokens)] := by
  induction tokens using Clause.induct with
  | atEnd tokens ended =>
      rw [ofTokens_of_isEnd ended, chunks_of_isEnd ended, Token.ending_of_isEnd ended]
      exact ⟨[], .nil, rfl⟩
  | clause tokens goesOn ih =>
      obtain ⟨reports, reported, whole⟩ := ih
      rw [Clause.size_read, Token.ending_drop_clauseLength] at reported whole
      refine ⟨(Clause.read tokens).events tokens :: reports, ?_, ?_⟩
      · rw [chunks_eq goesOn]
        exact .cons (Clause.reported_events tokens) reported
      · rw [ofTokens_eq goesOn, Clause.size_read, whole, List.flatten_cons, List.append_assoc]

/-- The tokens that are reported of chunks are the tokens of the chunks. -/
theorem filterMap_token?_flatten {ending : Token} {chunks : List (List Token)}
    {reports : List (List ParseEvent)} (reported : List.Forall₂ (Reported ending) chunks reports) :
    reports.flatten.filterMap ParseEvent.token? = chunks.flatten := by
  induction reported with
  | nil => rfl
  | cons first _ ih =>
      rw [List.flatten_cons, List.flatten_cons, List.filterMap_append, first.filterMap_token?, ih]

/-- A program reports the tokens before the end of the input, and then the end. -/
theorem filterMap_token?_events (tokens : List Token) :
    (ofTokens tokens).events.filterMap ParseEvent.token? =
      Token.beforeEnd tokens ++ [Token.ending tokens] := by
  obtain ⟨reports, reported, whole⟩ := exists_reports tokens
  rw [whole, List.filterMap_append, filterMap_token?_flatten reported, flatten_chunks]
  rfl

/-- No token is lost and none is reported twice. Whatever a parser is asked for before it
goes through the rest as a program, all that it reports of tokens is the tokens of the
source, in order and each once, and the one end of the input last. Only the program reports
statements: each chunk whose front is a statement reports that, behind the last token of
the statement and before the token that follows, and the others report none. If there is no
error, the statements that are reported are the program. -/
theorem tokens_reported_once (source : String) (requests : List Request) :
    let asked := (Reading.start (lex source)).askAll requests
    let parsing := ofCursor asked.cursor
    (asked.events ++ parsing.events).filterMap ParseEvent.token? = lex source ∧
      asked.events.filterMap ParseEvent.statement? = [] ∧
      (∃ tokens ending reports, lex source = tokens ++ [ending] ∧ ending.isEnd ∧
        (∀ token ∈ tokens, token.isEnd = false) ∧
        List.Forall₂ (Reported ending) (chunks 0 asked.cursor.tokens) reports ∧
        parsing.events = reports.flatten ++ [.consumed ending]) ∧
      ∀ program, parsing.result = .ok program →
        parsing.events.filterMap ParseEvent.statement? = program := by
  intro asked parsing
  have keeps : asked.Keeps (lex source) := (Reading.keeps_start (lex source)).askAll requests
  have same : parsing = ofTokens asked.cursor.tokens := ofCursor_eq asked.cursor
  obtain ⟨tokens, ending, whole, inside, ended⟩ := exists_lex_eq source
  have last : Token.ending asked.cursor.tokens = ending := by
    have alone : Token.ending [ending] = ending := Token.ending_of_isEnd ended
    rw [← Token.ending_append keeps.inside, keeps.whole, whole, Token.ending_append inside, alone]
  refine ⟨?_, keeps.silent, ?_, ?_⟩
  · rw [List.filterMap_append, same, filterMap_token?_events, ← List.append_assoc,
      ← Token.beforeEnd_append keeps.inside, keeps.whole, last, whole,
      Token.beforeEnd_concat inside ended]
  · obtain ⟨reports, reported, events⟩ := exists_reports asked.cursor.tokens
    rw [last] at reported events
    exact ⟨tokens, ending, reports, whole, ended, inside, reported, by rw [same, events]⟩
  · intro program accepted
    rw [← (result_eq_ok_iff.mp accepted).2, same]
    exact reported_ofTokens asked.cursor.tokens

end Parsing

end Ember
