import Ember.Proofs.Grammar.Completeness
import Ember.Proofs.Parser.Clause

/-!
# Acceptance

The parser accepts exactly what the grammar derives, and the program is the one
that is derived. The grammar is unambiguous because of that: the parser has one
answer.
-/

namespace Ember

open Grammar (Nonterminal Derives)

namespace Parsing

theorem result_eq_ok_iff {parsing : Parsing} {program : Program} :
    parsing.result = .ok program ↔ parsing.errors = [] ∧ parsing.statements = program := by
  rw [result]
  cases parsing.errors with
  | nil => simp
  | cons error errors => simp

theorem result_eq_error_iff {parsing : Parsing} {errors : List SyntaxError} :
    parsing.result = .error errors ↔ parsing.errors = errors ∧ errors ≠ [] := by
  rw [result]
  cases parsing.errors with
  | nil => simp +contextual [eq_comm]
  | cons error others =>
      simp only [Except.error.injEq, iff_self_and]
      rintro rfl
      simp

/-- What is accepted is derived. -/
theorem derives_of_accepted {tokens : List Token} (accepted : (ofTokens tokens).errors = []) :
    Derives .statements ((Token.beforeEnd tokens).map Token.kind) (ofTokens tokens).statements := by
  induction tokens using Clause.induct with
  | atEnd tokens ended =>
      rw [Token.beforeEnd_of_isEnd ended, ofTokens_of_isEnd ended]
      exact .noStatements
  | clause tokens goesOn ih =>
      have first := accepted
      rw [errors_ofTokens goesOn, List.append_eq_nil_iff, Option.toList_eq_nil_iff] at first
      rcases Clause.exists_takes first.1 with
        ⟨taken, statement, rest, openBraces, run, inside, follows⟩
      obtain rfl : tokens = taken ++ rest := run.tokens
      rcases Parser.sound_expression.statementWith run with ⟨derivation, ends⟩
      rw [Token.beforeEnd_append inside, List.map_append]
      rcases follows with atEnd | ⟨mark, others, rfl, kind⟩
      · rcases ofTokens_of_last goesOn run atEnd with ⟨-, statements⟩
        rw [Token.beforeEnd_of_isEnd atEnd, List.map_nil, List.append_nil, statements]
        rcases ends with semicolon | ⟨value, rfl, whole⟩
        · simp [Token.isEnd, semicolon] at atEnd
        · exact .lastExpression whole
      · rw [Clause.drop_size_of_semicolon run kind] at ih first
        rw [Token.beforeEnd_semicolon kind, List.map_cons, kind,
          (ofTokens_of_semicolon goesOn run kind).2]
        exact .moreStatements derivation (ih first.2)

/-- What is derived is accepted. -/
theorem accepted_of_derives {tokens rest : List Token} {kinds : List TokenKind} {program : Program}
    (derivation : Derives .statements kinds program) (spelled : tokens.map Token.kind = kinds)
    (ended : (Token.next rest).isEnd) :
    (ofTokens (tokens ++ rest)).errors = [] ∧ (ofTokens (tokens ++ rest)).statements = program := by
  have closes : TokenKind.beginsStatement .endOfInput = false := rfl
  induction program generalizing tokens kinds with
  | nil =>
      rcases derivation.decomposes with
        ⟨rfl, -⟩ | ⟨_, _, impossible⟩ | ⟨_, _, _, _, _, _, _, impossible⟩
      · rcases List.map_eq_nil_iff.mp spelled with rfl
        rw [List.nil_append, ofTokens_of_isEnd ended]
        exact ⟨rfl, rfl⟩
      · cases impossible
      · cases impossible
  | cons statement statements ih =>
      rcases derivation.decomposes with
        ⟨-, impossible⟩ | ⟨value, whole, same⟩ |
          ⟨firstKinds, others, first, more, firstDerived, moreDerived, rfl, same⟩
      · cases impossible
      · rcases List.cons_eq_cons.mp same with ⟨rfl, rfl⟩
        rcases Reads.goesOn (whole.beginsStatement rfl) spelled closes rest with ⟨-, goesOn⟩
        have stops : Stops .lowest rest := by
          have kind : (Token.next rest).kind = .endOfInput := by simpa [Token.isEnd] using ended
          rw [Stops, kind]
          decide
        exact ofTokens_of_last goesOn
          (whole.reads.takes_statement (whole.begins rfl) spelled stops) ended
      · rcases List.cons_eq_cons.mp same with ⟨rfl, rfl⟩
        rcases Token.exists_split_at spelled with
          ⟨firstTokens, mark, moreTokens, rfl, firstSpelled, kind, moreSpelled⟩
        rcases Reads.goesOn (firstDerived.beginsStatement rfl) firstSpelled closes (mark ::
            (moreTokens ++ rest)) with ⟨-, goesOn⟩
        rcases ih moreDerived moreSpelled with ⟨noErrors, sameStatements⟩
        have run : Parser.Takes Parser.statement (firstTokens ++ mark :: (moreTokens ++ rest))
            firstTokens statement ⟨mark :: (moreTokens ++ rest), 0⟩ :=
          firstDerived.reads 0 firstSpelled kind
        rcases ofTokens_of_semicolon goesOn run kind with ⟨errors, parsed⟩
        rw [List.append_assoc, List.cons_append, errors, parsed, sameStatements]
        exact ⟨noErrors, rfl⟩

/-- No tokens derive two programs: the parser would have to give both. -/
theorem derives_unique {kinds : List TokenKind} {first second : Program}
    (firstDerived : Derives .statements kinds first)
    (secondDerived : Derives .statements kinds second) : first = second := by
  have spelled : (kinds.map fun kind => Token.mk kind 1 0 0).map Token.kind = kinds := by
    simp [Function.comp_def]
  rcases accepted_of_derives firstDerived spelled (show (Token.next []).isEnd from rfl) with
    ⟨-, rfl⟩
  exact (accepted_of_derives secondDerived spelled rfl).2

/-- The parser accepts the tokens before the end of the input exactly if the grammar
derives a program from them. That is the program which it returns, it is the only
one, and none of its tokens is illegal. -/
theorem accepts_iff_derives (tokens : List Token) (program : Program) :
    ((ofTokens tokens).result = .ok program ↔
        Derives .statements ((Token.beforeEnd tokens).map Token.kind) program) ∧
      (Derives .statements ((Token.beforeEnd tokens).map Token.kind) program →
        (∀ fault, .illegal fault ∉ (Token.beforeEnd tokens).map Token.kind) ∧
          ∀ other, Derives .statements ((Token.beforeEnd tokens).map Token.kind) other →
            other = program) := by
  refine ⟨?_, fun derivation => ⟨derivation.illegal_notMem, fun other otherDerived => ?_⟩⟩
  · rw [result_eq_ok_iff]
    constructor
    · rintro ⟨accepted, rfl⟩
      exact derives_of_accepted accepted
    · intro derivation
      rcases Token.exists_eq_beforeEnd_append tokens with ⟨rest, whole, ended⟩
      have accepted := accepted_of_derives derivation rfl ended
      rwa [← whole] at accepted
  · exact derives_unique otherDerived derivation

end Parsing

end Ember
