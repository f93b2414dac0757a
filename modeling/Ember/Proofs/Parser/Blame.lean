import Ember.Proofs.Parser.Legal

/-!
# Blame

Every failure of the parser is the fault of one token. The tokens before it were taken,
and it is the next one; only a numeral is taken itself before its value is found to be too
large. What the token is decides the class of the error.

A parser that ends in this way can be asked what it took. `Ends` says that it succeeds, or
that what it took before the blamed token has some property. The combinators carry the
property along, so that a law about failures is proved production by production.
-/

namespace Ember

namespace SyntaxError

/-- The errors that may blame a token. -/
inductive Blames : SyntaxError → Token → Prop where
  | lexical {token : Token} {fault : LexicalFault} :
      token.kind = .illegal fault → Blames (.lexical fault token.line) token
  | prematureEnd {token : Token} (expected : Expectation) :
      token.isEnd → Blames (.prematureEnd expected token.line) token
  | integerTooLarge {token : Token} {digits : String} :
      token.kind = .integer digits → Integer.ofDigits? digits = none →
        Blames (.integerTooLarge digits token.line) token
  | unexpectedToken {token : Token} {expected : Expectation} :
      token.Legal → token.isEnd = false → expected ≠ .expression →
        Blames (.unexpectedToken expected token.kind token.line) token
  | noOperand {token : Token} :
      token.Legal → token.isEnd = false → Blames (.noOperand token.kind token.line) token

theorem blames_unexpected {expected : Expectation} (proper : expected ≠ .expression)
    (token : Token) : (unexpected expected token).Blames token := by
  unfold unexpected
  split
  · next kind => exact .lexical kind
  · next kind => exact .prematureEnd expected (by simp [Token.isEnd, kind])
  · next legal proceeds =>
      exact .unexpectedToken legal (by simpa [Token.isEnd] using proceeds) proper

theorem blames_missingOperand (token : Token) : (missingOperand token).Blames token := by
  unfold missingOperand
  split
  · next kind => exact .lexical kind
  · next kind => exact .prematureEnd .expression (by simp [Token.isEnd, kind])
  · next legal proceeds => exact .noOperand legal (by simpa [Token.isEnd] using proceeds)

/-- How many tokens are taken beyond those before the blamed one. -/
def overrun : SyntaxError → Nat
  | .integerTooLarge _ _ => 1
  | _ => 0

@[simp] theorem overrun_unexpected (expected : Expectation) (token : Token) :
    (unexpected expected token).overrun = 0 := by
  unfold unexpected
  split <;> rfl

@[simp] theorem overrun_missingOperand (token : Token) : (missingOperand token).overrun = 0 := by
  unfold missingOperand
  split <;> rfl

end SyntaxError

namespace Parser

variable {α β : Type}

/-- The parser takes some tokens, and fails because of the one behind them. -/
structure Blocked (parser : Parser α) (cursor : Cursor) (taken rest : List Token)
    (error : SyntaxError) : Prop where
  tokens : cursor.tokens = taken ++ rest
  blames : error.Blames (Token.next rest)
  reply : ∃ openBraces, parser cursor = ⟨.error error, taken.length + error.overrun, openBraces⟩

theorem Blocked.bind {parser : Parser α} {cursor : Cursor} {taken rest : List Token}
    {error : SyntaxError} (blocked : Blocked parser cursor taken rest error)
    (next : α → Parser β) : Blocked (parser >>= next) cursor taken rest error := by
  obtain ⟨openBraces, reply⟩ := blocked.reply
  refine ⟨blocked.tokens, blocked.blames, openBraces, ?_⟩
  rw [bind_apply, reply]

theorem Reaches.blocked {parser remaining : Parser α} {cursor middle : Cursor}
    {taken further rest : List Token} {error : SyntaxError}
    (run : Reaches parser cursor taken remaining middle)
    (blocked : Blocked remaining middle further rest error) :
    Blocked parser cursor (taken ++ further) rest error := by
  obtain ⟨openBraces, reply⟩ := blocked.reply
  refine ⟨?_, blocked.blames, openBraces, ?_⟩
  · rw [run.tokens, blocked.tokens, List.append_assoc]
  · rw [run.reply, reply, Reply.behind, List.length_append, Nat.add_assoc]

/-- The parser succeeds, or it is blocked behind tokens whose kinds are viable. -/
def Ends (viable : List TokenKind → Prop) (parser : Parser α) (cursor : Cursor) : Prop :=
  (∃ taken value after, Takes parser cursor taken value after) ∨
    ∃ taken rest error, Blocked parser cursor taken rest error ∧ viable (taken.map Token.kind)

namespace Ends

variable {viable other : List TokenKind → Prop} {cursor : Cursor}

theorem mono {parser : Parser α} (ends : Ends viable parser cursor)
    (weaker : ∀ kinds, viable kinds → other kinds) : Ends other parser cursor := by
  rcases ends with succeeds | ⟨taken, rest, error, blocked, possible⟩
  · exact .inl succeeds
  · exact .inr ⟨taken, rest, error, blocked, weaker _ possible⟩

theorem pure (value : α) : Ends viable (Pure.pure value) cursor :=
  .inl ⟨[], value, cursor, .pure value cursor⟩

theorem unexpected {expected : Expectation} (proper : expected ≠ .expression)
    (possible : viable []) :
    Ends viable (fail (.unexpected expected (Token.next cursor.tokens)) : Parser α) cursor :=
  .inr ⟨[], cursor.tokens, _, ⟨rfl, SyntaxError.blames_unexpected proper _, cursor.openBraces,
    by simp⟩, possible⟩

theorem missingOperand (possible : viable []) :
    Ends viable (fail (.missingOperand (Token.next cursor.tokens)) : Parser α) cursor :=
  .inr ⟨[], cursor.tokens, _, ⟨rfl, SyntaxError.blames_missingOperand _, cursor.openBraces,
    by simp⟩, possible⟩

/-- What is viable behind the first parser is what is viable with its tokens before it. -/
theorem bind {parser : Parser α} {next : α → Parser β} (first : Ends viable parser cursor)
    (second : ∀ taken value after, Takes parser cursor taken value after →
      Ends (fun kinds => viable (taken.map Token.kind ++ kinds)) (next value) after) :
    Ends viable (parser >>= next) cursor := by
  rcases first with ⟨taken, value, middle, run⟩ | ⟨taken, rest, error, blocked, possible⟩
  · rcases second taken value middle run with
      ⟨further, result, after, more⟩ | ⟨further, rest, error, blocked, possible⟩
    · exact .inl ⟨_, _, _, run.bind more⟩
    · refine .inr ⟨_, _, _, (run.reaches next).blocked blocked, ?_⟩
      rw [List.map_append]
      exact possible
  · exact .inr ⟨taken, rest, error, blocked.bind next, possible⟩

theorem look {next : Token → Parser α}
    (ends : Ends viable (next (Token.next cursor.tokens)) cursor) :
    Ends viable (peek >>= next) cursor := by
  have here := Reaches.look next cursor
  rcases ends with ⟨taken, value, after, run⟩ | ⟨taken, rest, error, blocked, possible⟩
  · exact .inl ⟨taken, value, after, here.trans run⟩
  · exact .inr ⟨taken, rest, error, here.blocked blocked, possible⟩

/-- Another token than the expected one is blamed, and nothing is taken. -/
theorem expect {kind : TokenKind} (proper : kind ≠ .endOfInput) {next : Unit → Parser α}
    (possible : viable [])
    (behind : ∀ token rest, token.kind = kind → cursor.tokens = token :: rest →
      Ends (fun kinds => viable (kind :: kinds)) (next ()) ⟨rest, cursor.openBraces⟩) :
    Ends viable (Parser.expect kind >>= next) cursor := by
  by_cases fits : (Token.next cursor.tokens).kind = kind
  · rcases cursor with ⟨tokens, openBraces⟩
    obtain ⟨token, rest, rfl, same⟩ := exists_cons_of_next fits proper
    have here := Reaches.expect same rest openBraces next
    rcases behind token rest same rfl with
      ⟨taken, value, after, run⟩ | ⟨taken, others, error, blocked, further⟩
    · exact .inl ⟨_, value, after, here.trans run⟩
    · refine .inr ⟨_, others, error, here.blocked blocked, ?_⟩
      rw [List.singleton_append, List.map_cons, same]
      exact further
  · refine .inr ⟨[], cursor.tokens, .unexpected (.token kind) (Token.next cursor.tokens),
      ⟨rfl, SyntaxError.blames_unexpected (by simp) _, cursor.openBraces, ?_⟩, possible⟩
    rw [expect_bind_of_ne fits]
    simp

/-- A step that takes no token and only counts. -/
theorem count {parser : Parser Unit} {counted : Nat}
    (counts : parser cursor = ⟨.ok (), 0, counted⟩) : Ends viable parser cursor :=
  .inl ⟨[], (), ⟨cursor.tokens, counted⟩, rfl, by rw [counts]; rfl⟩

theorem name (possible : viable []) : Ends viable name cursor := by
  rw [name_eq]
  apply look
  split
  · exact expect (by simp) possible fun _ _ _ _ => pure _
  · exact unexpected (by simp) possible

theorem terminated (possible : viable []) : Ends viable terminated cursor := by
  apply look
  split
  · exact pure _
  · exact unexpected (by simp) possible

/-- The numeral itself is blamed if its number is too large. -/
theorem numeral {token : Token} {rest : List Token} {openBraces : Nat} {digits : String}
    (kind : token.kind = .integer digits) (possible : viable []) :
    Ends viable (Parser.expect (.integer digits) >>= fun _ => numeral digits token.line)
      ⟨token :: rest, openBraces⟩ := by
  have here := Reaches.expect kind rest openBraces fun _ => Parser.numeral digits token.line
  rw [Parser.numeral] at here ⊢
  cases denoted : Integer.ofDigits? digits with
  | some value =>
      rw [denoted] at here
      exact .inl ⟨_, _, _, here⟩
  | none =>
      rw [denoted] at here
      have blames := SyntaxError.Blames.integerTooLarge kind denoted
      exact .inr ⟨[], token :: rest, _, ⟨rfl, blames, openBraces, here.reply⟩, possible⟩

/-- A sequence is blocked in an element, or behind one. -/
theorem sequence {element : Parser α} {separator terminator : TokenKind}
    (properSeparator : separator ≠ .endOfInput) (properTerminator : terminator ≠ .endOfInput)
    (possible : viable []) (inside : ∀ cursor, Ends viable element cursor)
    (behind : ∀ cursor taken value after, Takes element cursor taken value after →
      viable (taken.map Token.kind) ∧
        ∀ kinds, viable kinds → viable (taken.map Token.kind ++ separator :: kinds)) :
    Ends viable (sequence element separator terminator) cursor := by
  induction length : cursor.tokens.length using Nat.strongRecOn generalizing cursor with
  | _ size ih =>
      rw [sequence_eq element properSeparator properTerminator]
      apply look
      split
      · exact expect properTerminator possible fun _ _ _ _ => pure _
      · split
        · exact unexpected (by simp) possible
        · refine (inside cursor).bind fun taken value after run => look ?_
          obtain ⟨here, further⟩ := behind cursor taken value after run
          have sofar : viable (taken.map Token.kind ++ []) := by rwa [List.append_nil]
          split
          · refine expect properSeparator sofar fun mark rest _ remaining => ?_
            have shorter : rest.length < size := by
              have whole := congrArg List.length run.tokens
              rw [remaining, List.length_append, List.length_cons] at whole
              omega
            have following : Ends viable (Parser.sequence element separator terminator)
                ⟨rest, after.openBraces⟩ := ih _ shorter rfl
            exact (following.mono further).bind fun _ _ _ _ => pure _
          · split
            · exact expect properTerminator sofar fun _ _ _ _ => pure _
            · exact unexpected (by simp) sofar

theorem braced {element : Parser α} {separator : TokenKind}
    (ends : Ends viable (Parser.sequence element separator (.symbol .rightBrace))
      ⟨cursor.tokens, cursor.openBraces + 1⟩) : Ends viable (braced element separator) cursor := by
  refine (count rfl).bind fun taken _ after opening => ?_
  obtain ⟨rfl, rfl⟩ := opening.of_count rfl
  refine ends.bind fun _ _ _ _ => ?_
  exact (count rfl).bind fun _ _ _ _ => pure _

end Ends

end Parser

end Ember
