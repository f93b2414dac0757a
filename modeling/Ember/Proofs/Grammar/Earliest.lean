import Ember.Proofs.Grammar.Acceptance
import Ember.Proofs.Grammar.Viability
import Ember.Proofs.Parser.Recovery
import Ember.Proofs.Token.Tiling

/-!
# Errors at the earliest token

A clause that fails blames one of its tokens, or the end of the input behind it. The
tokens before the blamed one are viable, and a statement sees no further than that one, so
it fails on it whatever follows.

The same holds for programs and their first error: no other token list that goes on in the
same way up to the blamed token is a program, but some that goes on in the same way before
it is one.
-/

namespace Ember

open Grammar (Viable Derives)

namespace Clause

/-- A clause reads the tokens that its statement takes and the one behind them. -/
theorem error_read_append {taken rest others : List Token}
    (same : Token.next rest = Token.next others)
    (all : (Parser.statement (taken ++ rest)).consumed = taken.length) :
    (read (taken ++ others)).error = (read (taken ++ rest)).error := by
  rw [read, read]
  dsimp only
  rw [Parser.statement_append same all]
  generalize Parser.statement _ = reply at all ⊢
  rcases reply with ⟨_ | statement, consumed, openBraces⟩
  · rfl
  · obtain rfl : consumed = taken.length := all
    simp only [List.drop_left, same]
    split
    · rfl
    · split <;> rfl

/-- The first clause of the tokens has an error that blames the token behind some of its
own. -/
structure Blamed (tokens taken rest : List Token) (error : SyntaxError) : Prop where
  tokens_eq : tokens = taken ++ rest
  blames : error.Blames (Token.next rest)
  viable : Viable .statement (taken.map Token.kind)
  inside : ∀ token ∈ taken, token.isEnd = false
  /-- The clause goes beyond the blamed token, unless that ends the input. -/
  size : taken.length < (read tokens).size ∨
    (taken.length = (read tokens).size ∧ (Token.next rest).isEnd)
  /-- The blamed token gives the same error whatever follows it. -/
  again : error.overrun = 0 → ∀ others, Token.next rest = Token.next others →
    (read (taken ++ others)).error = some error

/-- What is known of a blamed token follows from the number of tokens that were taken. -/
theorem Blamed.of_consumed {taken rest : List Token} {error : SyntaxError}
    (failed : (read (taken ++ rest)).error = some error) (blames : error.Blames (Token.next rest))
    (viable : Viable .statement (taken.map Token.kind))
    (all : (Parser.statement (taken ++ rest)).consumed = taken.length + error.overrun) :
    Blamed (taken ++ rest) taken rest error := by
  have walk := (Parser.walks_statement (taken ++ rest)).walk
  rw [all] at walk
  refine ⟨rfl, blames, viable, ?_, ?_, ?_⟩
  · intro token member
    refine walk.isEnd_eq_false token ?_
    rw [List.take_append, List.take_of_length_le (Nat.le_add_right _ _)]
    exact List.mem_append_left _ member
  · have counted := walk.clauseLength_eq
    rw [size_read]
    dsimp only at counted
    rw [counted]
    rcases Nat.eq_zero_or_pos error.overrun with within | beyond
    · rw [within, Nat.add_zero, List.drop_left]
      cases ended : (Token.next rest).isEnd with
      | true => exact .inr ⟨by rw [clauseLength_of_isEnd ended, Nat.add_zero], rfl⟩
      | false => exact .inl (Nat.lt_add_of_pos_right (Ember.clauseLength_pos ended))
    · exact .inl (by omega)
  · intro within others same
    rw [within, Nat.add_zero] at all
    rw [error_read_append same all, failed]

/-- Every error of a clause blames a token. -/
theorem exists_blamed {tokens : List Token} {error : SyntaxError}
    (failed : (read tokens).error = some error) : ∃ taken rest, Blamed tokens taken rest error := by
  rcases Parser.ends_statement tokens with
    ⟨taken, statement, ⟨rest, openBraces⟩, run⟩ | ⟨taken, rest, found, blocked, viable⟩
  · -- The statement is there, but no semicolon and no end behind it.
    obtain rfl : tokens = taken ++ rest := run.tokens
    have reply := run.reply_eq
    have known := failed
    rw [read] at known
    dsimp only at known reply
    rw [reply] at known
    simp only [List.drop_left] at known
    split at known
    · cases known
    · split at known
      · cases known
      · cases known
        exact ⟨taken, rest, .of_consumed failed (SyntaxError.blames_unexpected (by simp) _)
          (Parser.sound_expression.statementWith run).1.viable (by rw [reply]; simp)⟩
  · obtain rfl : tokens = taken ++ rest := blocked.tokens
    obtain ⟨openBraces, reply⟩ := blocked.reply
    have known := failed
    rw [read] at known
    dsimp only at known reply
    rw [reply] at known
    cases known
    exact ⟨taken, rest, .of_consumed failed blocked.blames viable (by rw [reply])⟩

end Clause

namespace Parsing

/-- Where the first clause fails, the program does. -/
theorem errors_ne_nil {tokens : List Token} {error : SyntaxError}
    (goesOn : (Token.next tokens).isEnd = false)
    (wrong : (Clause.read tokens).error = some error) : (ofTokens tokens).errors ≠ [] := by
  rw [errors_ofTokens goesOn, wrong]
  simp

/-- Behind a clause without an error the errors are those of the rest, whatever that is. -/
theorem errors_ofTokens_append {taken behind : List Token} {mark : Token} {statement : Stmt}
    {openBraces : Nat} (goesOn : (Token.next (taken ++ mark :: behind)).isEnd = false)
    (run : Parser.Takes Parser.statement (taken ++ mark :: behind) taken statement
      ⟨mark :: behind, openBraces⟩)
    (kind : mark.kind = .symbol .semicolon) (others : List Token) :
    (ofTokens (taken ++ mark :: others)).errors = (ofTokens others).errors := by
  have same : Token.next (mark :: behind) = Token.next (mark :: others) := rfl
  have all : (Parser.statement (taken ++ mark :: behind)).consumed = taken.length := by
    rw [run.reply_eq]
  have again : Parser.Takes Parser.statement (taken ++ mark :: others) taken statement
      ⟨mark :: others, openBraces⟩ :=
    ⟨rfl, (Parser.statement_append same all).trans run.reply⟩
  rw [Token.next_append taken same] at goesOn
  exact (ofTokens_of_semicolon goesOn again kind).1

/-- The first error of a program blames a token behind viable tokens. Unless it is about
the number of a numeral, there is an error whatever follows that token. -/
theorem exists_first_blamed {tokens : List Token} {error : SyntaxError}
    {others : List SyntaxError} (failed : (ofTokens tokens).errors = error :: others) :
    ∃ before rest, tokens = before ++ rest ∧ error.Blames (Token.next rest) ∧
      Viable .statements (before.map Token.kind) ∧ (∀ token ∈ before, token.isEnd = false) ∧
      (error.overrun = 0 → ∀ more, Token.next rest = Token.next more →
        (ofTokens (before ++ more)).errors ≠ []) := by
  induction tokens using Clause.induct with
  | atEnd tokens ended =>
      rw [ofTokens_of_isEnd ended] at failed
      cases failed
  | clause tokens goesOn ih =>
      cases wrong : (Clause.read tokens).error with
      | some found =>
          rw [errors_ofTokens goesOn, wrong] at failed
          cases failed
          obtain ⟨taken, rest, blamed⟩ := Clause.exists_blamed wrong
          refine ⟨taken, rest, blamed.tokens_eq, blamed.blames, ?_, blamed.inside, ?_⟩
          · exact blamed.viable.first fun _ _ derivation =>
              ⟨_, .moreStatements derivation .noStatements⟩
          · intro within more same
            refine errors_ne_nil ?_ (blamed.again within more same)
            rw [← Token.next_append taken same, ← blamed.tokens_eq]
            exact goesOn
      | none =>
          obtain ⟨taken, statement, rest, openBraces, run, inside, follows⟩ :=
            Clause.exists_takes wrong
          rcases follows with atEnd | ⟨mark, behind, rfl, kind⟩
          · rw [(ofTokens_of_last goesOn run atEnd).1] at failed
            cases failed
          · rw [(ofTokens_of_semicolon goesOn run kind).1] at failed
            rw [Clause.drop_size_of_semicolon run kind] at ih
            obtain rfl : tokens = taken ++ mark :: behind := run.tokens
            obtain ⟨before, rest, rfl, blames, ⟨missing, program, derived⟩, proceeds, final⟩ :=
              ih failed
            refine ⟨taken ++ mark :: before, rest, by simp, blames, ?_, ?_, ?_⟩
            · refine ⟨missing, statement :: program, ?_⟩
              rw [List.map_append, List.map_cons, kind, List.append_assoc]
              exact .moreStatements (Parser.sound_expression.statementWith run).1 derived
            · rw [List.forall_mem_append, List.forall_mem_cons]
              exact ⟨inside, by simp [Token.isEnd, kind], proceeds⟩
            · intro within more same
              rw [List.append_assoc, List.cons_append, errors_ofTokens_append goesOn run kind]
              exact final within more same

/-- Viable tokens can be completed to tokens that the parser accepts. -/
theorem exists_accepted_of_viable {before : List Token}
    (viable : Viable .statements (before.map Token.kind)) :
    ∃ more program, (ofTokens (before ++ more)).result = .ok program := by
  obtain ⟨missing, program, derivation⟩ := viable
  have spelled : (before ++ missing.map fun kind => Token.mk kind 1 0 0).map Token.kind =
      before.map Token.kind ++ missing := by
    simp [Function.comp_def]
  have accepted := accepted_of_derives derivation spelled (show (Token.next []).isEnd from rfl)
  rw [List.append_nil] at accepted
  exact ⟨_, program, result_eq_ok_iff.mpr accepted⟩

/-- No tokens behind a numeral make up for its number. -/
theorem errors_ne_nil_of_large {before more : List Token} {token : Token} {digits : String}
    (inside : ∀ token ∈ before, token.isEnd = false) (kind : token.kind = .integer digits)
    (large : Integer.ofDigits? digits = none) :
    (ofTokens (before ++ token :: more)).errors ≠ [] := by
  intro accepted
  have unsound := (derives_of_accepted accepted).large_notMem large
  have goesOn : token.isEnd = false := by simp [Token.isEnd, kind]
  apply unsound
  rw [Token.beforeEnd_append inside, Token.beforeEnd, List.takeWhile_cons_of_pos (by simp [goesOn])]
  simp [kind]

/-- Errors are found at the earliest token. Where a source is no program, the tokens before
the one that its first error blames can be continued to a program, and the tokens up to
and with that one cannot. If that one is the end of the input, the tokens before it are
then no program themselves, since nothing behind the end is parsed. -/
theorem first_error_earliest {source : String} {error : SyntaxError} {others : List SyntaxError}
    (failed : (ofSource source).result = .error (error :: others)) :
    ∃ before token after, lex source = before ++ token :: after ∧ error.Blames token ∧
      (∃ more program, (ofTokens (before ++ more)).result = .ok program) ∧
      ∀ more program, (ofTokens (before ++ token :: more)).result ≠ .ok program := by
  obtain ⟨errors, -⟩ := result_eq_error_iff.mp failed
  obtain ⟨before, rest, split, blames, viable, inside, final⟩ := exists_first_blamed errors
  obtain ⟨tokens, ending, whole, -, ended⟩ := exists_lex_eq source
  cases rest with
  | nil =>
      have member : ending ∈ before := by
        rw [← List.append_nil before, ← split, whole]
        simp
      rw [inside ending member] at ended
      cases ended
  | cons token after =>
      refine ⟨before, token, after, split, blames, exists_accepted_of_viable viable, ?_⟩
      intro more program accepted
      have noErrors := (result_eq_ok_iff.mp accepted).1
      rw [Token.next_cons] at blames
      cases blames with
      | integerTooLarge kind large => exact errors_ne_nil_of_large inside kind large noErrors
      | lexical | prematureEnd | unexpectedToken | noOperand =>
          exact final rfl (token :: more) rfl noErrors

/-- Behind `let` a name must stand. -/
theorem first_error_earliest_missingName :
    (ofSource "let 5;").result = .error [.unexpectedToken .identifier (.integer "5") 1] ∧
      ∃ before token after, lex "let 5;" = before ++ token :: after ∧
        (SyntaxError.unexpectedToken .identifier (.integer "5") 1).Blames token ∧
        (∃ more program, (ofTokens (before ++ more)).result = .ok program) ∧
        ∀ more program, (ofTokens (before ++ token :: more)).result ≠ .ok program := by
  have lexed : lex "let 5;" = [⟨.keyword .letWord, 1, 0, 3⟩, ⟨.integer "5", 1, 4, 5⟩,
      ⟨.symbol .semicolon, 1, 5, 6⟩, ⟨.endOfInput, 1, 6, 6⟩] := by
    decide +kernel
  have failed : (ofSource "let 5;").result =
      .error [.unexpectedToken .identifier (.integer "5") 1] := by
    rw [result_eq_error_iff, ofSource, lexed, errors_ofTokens rfl]
    change [_] ++ (ofTokens [⟨.endOfInput, 1, 6, 6⟩]).errors = _ ∧ _
    rw [ofTokens_of_isEnd rfl]
    exact ⟨rfl, nofun⟩
  exact ⟨failed, first_error_earliest failed⟩

end Parsing

end Ember
