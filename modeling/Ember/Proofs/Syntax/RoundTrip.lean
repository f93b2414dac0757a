import Ember.Proofs.Grammar.Acceptance
import Ember.Proofs.Syntax.Rejection

/-!
# Printing and parsing again

A program that was parsed is printed and parsed again. The same program comes back
exactly if all conditions in it are printed in parentheses, and otherwise there is
an error.
-/

namespace Ember

open Grammar (Derives)

theorem Program.faithful_iff {program : Program} :
    program.faithful ↔ ∀ statement ∈ program, statement.faithful := by
  rw [Program.faithful, List.all_eq_true]

namespace Parsing

/-- The names, numbers and strings of a program that was parsed are read back as
they are written. -/
theorem writable_of_parsed {source : String} {program : Program}
    (parsed : (ofSource source).result = .ok program) :
    ∀ statement ∈ program, statement.writable := by
  rcases result_eq_ok_iff.mp parsed with ⟨accepted, rfl⟩
  apply (derives_of_accepted accepted).writable
  intro kind member
  have inside : kind ∈ (lex source).map Token.kind :=
    (List.takeWhile_sublist _).map Token.kind |>.mem member
  rw [lex, map_kind_lexFrom] at inside
  exact isLexical_of_mem_lexKinds inside

/-- A statement on which the parser fails is an error of the program. -/
theorem errors_ne_nil_of_fails {tokens : List Token} (goesOn : (Token.next tokens).isEnd = false)
    (failure : Parser.Fails Parser.statement tokens) : (ofTokens tokens).errors ≠ [] := by
  intro accepted
  rw [errors_ofTokens goesOn, List.append_eq_nil_iff, Option.toList_eq_nil_iff] at accepted
  rcases Clause.exists_takes accepted.1 with ⟨taken, statement, rest, openBraces, run, -, -⟩
  exact run.not_fails failure

/-- The printed form of a program that is not faithful has an error. -/
theorem errors_ne_nil_of_unfaithful {program : Program}
    (writable : ∀ statement ∈ program, statement.writable)
    (bad : ¬ ∀ statement ∈ program, statement.faithful) {tokens : List Token} (rest : List Token)
    (spelled : tokens.map Token.kind = program.kinds) :
    (ofTokens (tokens ++ rest)).errors ≠ [] := by
  induction program generalizing tokens with
  | nil =>
      exfalso
      apply bad
      intro statement member
      cases member
  | cons statement others ih =>
      rw [List.forall_mem_cons] at writable bad
      rw [Program.kinds, List.map_cons, List.flatten_cons] at spelled
      rcases List.map_eq_append_iff.mp spelled with ⟨first, more, rfl, firstSpelled, moreSpelled⟩
      have closes : TokenKind.beginsStatement .endOfInput = false := rfl
      rcases Reads.goesOn statement.begins_kinds firstSpelled closes (more ++ rest) with ⟨-, goesOn⟩
      rw [List.append_assoc]
      by_cases faithful : statement.faithful
      · have remaining : ¬ ∀ statement ∈ others, statement.faithful := by
          intro all
          exact bad ⟨faithful, all⟩
        rcases derived_of_faithful.everyStmt statement writable.1 faithful with
          ⟨kinds, split, derivation⟩
        rw [split] at firstSpelled
        rcases Token.exists_split_last firstSpelled with ⟨taken, mark, rfl, takenSpelled, kind⟩
        have run : Parser.Takes Parser.statement (taken ++ mark :: (more ++ rest)) taken statement
            ⟨mark :: (more ++ rest), 0⟩ :=
          derivation.reads 0 takenSpelled kind
        rw [List.append_assoc] at goesOn ⊢
        rw [(ofTokens_of_semicolon goesOn run kind).1]
        exact ih writable.2 remaining moreSpelled
      · apply errors_ne_nil_of_fails goesOn
        exact checked_of_writable.everyStmt statement writable.1 faithful (more ++ rest) 0
          firstSpelled

/-- The tokens of a text, and the end of the input behind them. -/
theorem exists_lex_eq_append {source : String} {kinds : List TokenKind}
    (lexed : lexKinds source.toList = kinds ++ [.endOfInput]) :
    ∃ tokens rest, lex source = tokens ++ rest ∧
      tokens.map Token.kind = kinds ∧ (Token.next rest).isEnd := by
  have whole : (lex source).map Token.kind = kinds ++ [.endOfInput] := by
    rw [lex, map_kind_lexFrom, lexed]
  rcases Token.exists_split_last whole with ⟨tokens, last, split, spelled, kind⟩
  refine ⟨tokens, [last], split, spelled, ?_⟩
  simp [Token.isEnd, kind]

/-- A text is parsed as the program that is derived from its tokens. -/
theorem result_of_derives {source : String} {kinds : List TokenKind} {program : Program}
    (lexed : lexKinds source.toList = kinds ++ [.endOfInput])
    (derivation : Derives .statements kinds program) : (ofSource source).result = .ok program := by
  rcases exists_lex_eq_append lexed with ⟨tokens, rest, split, spelled, ended⟩
  rw [result_eq_ok_iff, ofSource, split]
  exact accepted_of_derives derivation spelled ended

/-- A parsed program that is printed and parsed again gives the same program exactly
if every condition of an `if` in it is an operation or an index expression. If some
condition is not, the printed form does not parse at all. -/
theorem result_render_iff_faithful {source : String} {program : Program}
    (parsed : (ofSource source).result = .ok program) :
    ((ofSource program.render).result = .ok program ↔ program.faithful) ∧
      (¬ program.faithful → ∃ errors, (ofSource program.render).result = .error errors) := by
  have writable := writable_of_parsed parsed
  have lexed := lexKinds_render writable
  have rejected : ¬ program.faithful → (ofSource program.render).errors ≠ [] := by
    intro bad
    rw [Program.faithful_iff] at bad
    rcases exists_lex_eq_append lexed with ⟨tokens, rest, split, spelled, -⟩
    rw [ofSource, split]
    exact errors_ne_nil_of_unfaithful writable bad rest spelled
  constructor
  · constructor
    · intro again
      by_cases faithful : program.faithful
      · exact faithful
      · exact absurd (result_eq_ok_iff.mp again).1 (rejected faithful)
    · intro faithful
      rw [Program.faithful_iff] at faithful
      apply result_of_derives lexed
      apply derives_flatten
      intro statement member
      exact derived_of_faithful.everyStmt statement (writable statement member)
        (faithful statement member)
  · intro bad
    refine ⟨(ofSource program.render).errors, ?_⟩
    rw [result]
    split
    · next none => exact absurd none (rejected bad)
    · next some => rfl

/-- A comparison as a condition is kept, and a name as a condition is not. -/
theorem result_render_comparison_and_name :
    (ofSource (Program.render [.expression (.conditional
        (.binary .less (.identifier "x") (.identifier "y")) [] none)])).result =
      .ok [.expression (.conditional
        (.binary .less (.identifier "x") (.identifier "y")) [] none)] ∧
      ∃ errors, (ofSource (Program.render
        [.expression (.conditional (.identifier "x") [] none)])).result = .error errors := by
  have name (found : String) {tier : Grammar.Tier} :
      Derives (.expression tier) [.identifier found] (.identifier found) :=
    (Derives.identifier found).looser tier.rank_le
  have comparison : (ofSource "if (x < y) \x7b\x7d").result =
      .ok [.expression (.conditional
        (.binary .less (.identifier "x") (.identifier "y")) [] none)] := by
    have condition : Derives (.expression .equality)
        [.identifier "x", .symbol .less, .identifier "y"]
        (.binary .less (.identifier "x") (.identifier "y")) :=
      (Derives.binary .less (name "x") (name "y")).looser (by decide)
    exact result_of_derives (by decide +kernel)
      (.lastExpression ((Derives.conditional condition (.block .noStatements)).looser (by decide)))
  have named : (ofSource "if (x) \x7b\x7d").result =
      .ok [.expression (.conditional (.identifier "x") [] none)] :=
    result_of_derives (by decide +kernel)
      (.lastExpression ((Derives.conditional (name "x") (.block .noStatements)).looser (by decide)))
  constructor
  · exact (result_render_iff_faithful comparison).1.mpr rfl
  · exact (result_render_iff_faithful named).2 (by decide)

end Parsing

end Ember
