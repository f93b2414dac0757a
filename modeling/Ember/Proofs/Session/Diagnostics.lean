import Mathlib.Algebra.Group.Nat.Defs
import Mathlib.Data.List.Forall2
import Ember.Proofs.Grammar.Earliest
import Ember.Proofs.Session.Basic

/-!
# Faults in order

The errors of a program blame tokens of it, one after the other: each clause has its own
tokens, and an error blames one of these or the end of the input, behind which there is no
other clause. The class of an error says what its token is.

So the faults of a source come in the order of their lines if they are faults of the
syntax, and otherwise there is one fault only, which has no line.
-/

namespace Ember

/-- A numeral without a value is one of a number above the range. -/
theorem Integer.lt_of_ofDigits?_eq_none {digits : String} (large : ofDigits? digits = none) :
    2 ^ 63 - 1 < Nat.ofDigitChars 10 digits.toList 0 := by
  unfold ofDigits? at large
  split at large
  · cases large
  · next outside =>
      have bound : integerBound.toNat = 2 ^ 63 := by decide
      omega

namespace SyntaxError

/-- How an error is told from the token that it blames. -/
structure ClassifiedBy (error : SyntaxError) (token : Token) : Prop where
  line : error.line = token.line
  lexical_iff : ∀ fault, error = .lexical fault token.line ↔ token.kind = .illegal fault
  prematureEnd_iff :
    (∃ expected, error = .prematureEnd expected token.line) ↔ token.kind = .endOfInput
  integerTooLarge : ∀ digits, error = .integerTooLarge digits token.line →
    token.kind = .integer digits ∧ 2 ^ 63 - 1 < Nat.ofDigitChars 10 digits.toList 0
  /-- Any other error names the kind of its token. -/
  otherwise : (∀ fault, token.kind ≠ .illegal fault) → token.kind ≠ .endOfInput →
    (∀ digits, error ≠ .integerTooLarge digits token.line) →
      error = .noOperand token.kind token.line ∨
        ∃ expected, expected ≠ .expression ∧
          error = .unexpectedToken expected token.kind token.line

theorem Blames.line_eq {error : SyntaxError} {token : Token} (blames : error.Blames token) :
    error.line = token.line := by
  cases blames <;> rfl

/-- The token decides the class of the error. -/
theorem Blames.classifiedBy {error : SyntaxError} {token : Token} (blames : error.Blames token) :
    error.ClassifiedBy token := by
  cases blames with
  | lexical kind =>
      exact ⟨rfl, by simp [kind], by simp [kind], by simp, fun legal => absurd kind (legal _)⟩
  | prematureEnd expected ended =>
      have kind : token.kind = .endOfInput := by simpa [Token.isEnd] using ended
      exact ⟨rfl, by simp [kind], by simp [kind], by simp, fun _ goesOn => absurd kind goesOn⟩
  | @integerTooLarge _ digits kind large =>
      refine ⟨rfl, by simp [kind], by simp [kind], ?_, fun _ _ small => absurd rfl (small digits)⟩
      rintro _ ⟨⟩
      exact ⟨kind, Integer.lt_of_ofDigits?_eq_none large⟩
  | unexpectedToken legal goesOn proper =>
      have kind : token.kind ≠ .endOfInput := by simpa [Token.isEnd] using goesOn
      exact ⟨rfl, by simp [legal _], by simp [kind], by simp, fun _ _ _ => .inr ⟨_, proper, rfl⟩⟩
  | noOperand legal goesOn =>
      have kind : token.kind ≠ .endOfInput := by simpa [Token.isEnd] using goesOn
      exact ⟨rfl, by simp [legal _], by simp [kind], by simp, fun _ _ _ => .inl rfl⟩

end SyntaxError

/-- The tokens of the first clause stand before the end of the input. -/
theorem Token.length_beforeEnd (tokens : List Token) :
    (beforeEnd tokens).length =
      clauseLength 0 tokens + (beforeEnd (tokens.drop (clauseLength 0 tokens))).length := by
  have inside : ∀ token ∈ tokens.take (clauseLength 0 tokens), token.isEnd = false :=
    isEnd_eq_false_of_mem_clause
  have whole := beforeEnd_append inside (tokens.drop (clauseLength 0 tokens))
  rw [List.take_append_drop] at whole
  rw [whole, List.length_append, List.length_take_of_le (clauseLength_le 0 tokens)]

/-- Before the end of the input no token is the end. -/
theorem Token.isEnd_next_drop {tokens : List Token} {place : Nat}
    (inside : place < (beforeEnd tokens).length) : (next (tokens.drop place)).isEnd = false := by
  induction tokens generalizing place with
  | nil => simp [beforeEnd] at inside
  | cons token rest ih =>
      cases ended : token.isEnd with
      | true => simp [beforeEnd, ended] at inside
      | false =>
          cases place with
          | zero => exact ended
          | succ place =>
              refine ih ?_
              simpa [beforeEnd, ended] using inside

/-- A place up to the end of the input is one of a token of the source. -/
theorem next_drop_lex {source : String} {place : Nat}
    (bounded : place ≤ (Token.beforeEnd (lex source)).length) :
    ∃ fits : place < (lex source).length,
      Token.next ((lex source).drop place) = (lex source)[place] := by
  obtain ⟨tokens, ending, whole, inside, ended⟩ := exists_lex_eq source
  have fits : place < (lex source).length := by
    rw [whole, Token.beforeEnd_concat inside ended] at bounded
    rw [whole, List.length_append, List.length_singleton]
    omega
  refine ⟨fits, ?_⟩
  rw [List.drop_eq_getElem_cons fits]
  rfl

namespace Parsing

/-- At every place of the list there is a token that the error there blames. The places go
up, and none is behind the end of the input. -/
structure Places (tokens : List Token) (errors : List SyntaxError) (places : List Nat) : Prop where
  blames : List.Forall₂ (fun error place => error.Blames (Token.next (tokens.drop place)))
    errors places
  ordered : places.Pairwise (· < ·)
  bounded : ∀ place ∈ places, place ≤ (Token.beforeEnd tokens).length

namespace Places

variable {tokens : List Token} {errors : List SyntaxError} {places : List Nat}

/-- Places behind the first clause, counted from its beginning. -/
theorem shift (later : Places (tokens.drop (clauseLength 0 tokens)) errors places) :
    Places tokens errors (places.map (clauseLength 0 tokens + ·)) where
  blames := by
    rw [List.forall₂_map_right_iff]
    refine later.blames.imp fun error place blames => ?_
    rwa [List.drop_drop] at blames
  ordered := by
    rw [List.pairwise_map]
    exact later.ordered.imp fun less => Nat.add_lt_add_left less _
  bounded := by
    rw [Token.length_beforeEnd, List.forall_mem_map]
    exact fun place member => Nat.add_le_add_left (later.bounded place member) _

/-- The place of the error of the first clause stands before all others. -/
theorem cons {taken rest : List Token} {error : SyntaxError}
    (blamed : Clause.Blamed tokens taken rest error)
    (later : Places (tokens.drop (clauseLength 0 tokens))
      (ofTokens (tokens.drop (clauseLength 0 tokens))).errors places) :
    Places tokens (error :: (ofTokens (tokens.drop (clauseLength 0 tokens))).errors)
      (taken.length :: places.map (clauseLength 0 tokens + ·)) where
  blames := by
    refine .cons ?_ later.shift.blames
    rw [blamed.tokens_eq, List.drop_left]
    exact blamed.blames
  ordered := by
    refine List.pairwise_cons.mpr ⟨?_, later.shift.ordered⟩
    rw [List.forall_mem_map]
    intro place member
    have size := blamed.size
    rw [Clause.size_read] at size
    rcases size with before | ⟨same, ended⟩
    · omega
    · -- Behind the end of the input there are no more errors.
      have behind : tokens.drop (clauseLength 0 tokens) = rest := by
        rw [← same, blamed.tokens_eq, List.drop_left]
      have none := later.blames
      rw [behind, ofTokens_of_isEnd ended] at none
      cases none
      cases member
  bounded := by
    refine List.forall_mem_cons.mpr ⟨?_, later.shift.bounded⟩
    rw [blamed.tokens_eq, Token.beforeEnd_append blamed.inside, List.length_append]
    exact Nat.le_add_right _ _

end Places

/-- Every error of a program has a place. -/
theorem exists_places (tokens : List Token) :
    ∃ places, Places tokens (ofTokens tokens).errors places := by
  induction tokens using Clause.induct with
  | atEnd tokens ended =>
      rw [ofTokens_of_isEnd ended]
      exact ⟨[], .nil, .nil, List.forall_mem_nil _⟩
  | clause tokens goesOn ih =>
      obtain ⟨places, later⟩ := ih
      rw [errors_ofTokens goesOn]
      rw [Clause.size_read] at later ⊢
      cases wrong : (Clause.read tokens).error with
      | none => exact ⟨_, later.shift⟩
      | some error =>
          obtain ⟨taken, rest, blamed⟩ := Clause.exists_blamed wrong
          exact ⟨_, .cons blamed later⟩

namespace Places

variable {source : String} {errors : List SyntaxError} {places : List Nat}

/-- Every error is classified by a token of the source. -/
theorem classified (placed : Places (lex source) errors places) :
    List.Forall₂ (fun error place => ∃ token, (lex source)[place]? = some token ∧
      error.ClassifiedBy token) errors places := by
  rw [List.forall₂_iff_zip]
  refine ⟨placed.blames.length_eq, fun member => ?_⟩
  obtain ⟨fits, here⟩ := next_drop_lex (placed.bounded _ (List.of_mem_zip member).2)
  have blames := (List.forall₂_iff_zip.mp placed.blames).2 member
  rw [here] at blames
  exact ⟨_, List.getElem?_eq_getElem fits, blames.classifiedBy⟩

/-- Only the last error can be about the end of the input. -/
theorem eq_nil_of_prematureEnd {tokens : List Token} {front others : List SyntaxError}
    {expected : Expectation} {line : Nat}
    (placed : Places tokens (front ++ .prematureEnd expected line :: others) places) :
    others = [] := by
  have behind := List.forall₂_drop_append _ _ _ placed.blames.flip
  have ordered : (places.drop front.length).Pairwise (· < ·) := placed.ordered.drop
  have bounded : ∀ place ∈ places.drop front.length, place ≤ (Token.beforeEnd tokens).length :=
    fun place member => placed.bounded place (List.mem_of_mem_drop member)
  generalize places.drop front.length = remaining at behind ordered bounded
  obtain ⟨place, later, blames, rest, rfl⟩ := List.forall₂_cons_right_iff.mp behind
  cases others with
  | nil => rfl
  | cons other others =>
      obtain ⟨following, last, -, -, rfl⟩ := List.forall₂_cons_right_iff.mp rest
      have less : place < following :=
        (List.pairwise_cons.mp ordered).1 following List.mem_cons_self
      have within := bounded following (List.mem_cons_of_mem _ List.mem_cons_self)
      cases blames with
      | prematureEnd _ ended =>
          rw [Token.isEnd_next_drop (Nat.lt_of_lt_of_le less within)] at ended
          cases ended

/-- The lines of the errors never go back. -/
theorem lines (placed : Places (lex source) errors places) :
    (errors.map SyntaxError.line).Pairwise (· ≤ ·) := by
  have same : errors.map SyntaxError.line =
      places.map fun place => (Token.next ((lex source).drop place)).line := by
    rw [← List.forall₂_eq_eq_eq, List.forall₂_map_left_iff, List.forall₂_map_right_iff]
    exact placed.blames.imp fun _ _ blames => blames.line_eq
  rw [same, List.pairwise_map]
  refine placed.ordered.imp_of_mem fun {first second} firstMember secondMember less => ?_
  obtain ⟨firstFits, firstHere⟩ := next_drop_lex (placed.bounded first firstMember)
  obtain ⟨secondFits, secondHere⟩ := next_drop_lex (placed.bounded second secondMember)
  rw [firstHere, secondHere]
  exact List.pairwise_iff_getElem.mp (lines_lexFrom .start source.toList).2 first second firstFits
    secondFits less

end Places

end Parsing

/-- Every syntax error blames one token of the source, the tokens come in the order of the
errors, and each error is classified by its token; so only the last error can be about the
end of the input. Where a source has no value there is at least one fault. Either all are
faults of the syntax, with lines that never go back, or there is one fault of the
evaluation, without a line. -/
theorem errors_classified (source : String) :
    (∀ errors, (Parsing.ofSource source).result = .error errors →
      (∃ places : List Nat, places.Pairwise (· < ·) ∧
        List.Forall₂ (fun error place => ∃ token, (lex source)[place]? = some token ∧
          error.ClassifiedBy token) errors places) ∧
      ∀ front expected line others,
        errors = front ++ .prematureEnd expected line :: others → others = []) ∧
    ∀ {State : Type} (sink : Sink State) (depth : Nat) (scope : ScopeId) (world : World)
      (trace : State) (diagnostics : List Diagnostic),
      (evaluateWith sink depth source scope world trace).outcome = .faulty diagnostics →
        diagnostics ≠ [] ∧
        (((∀ diagnostic ∈ diagnostics, diagnostic.kind = .lex ∨ diagnostic.kind = .parse) ∧
          ∃ lines : List Nat, diagnostics.map Diagnostic.line? = lines.map some ∧
            lines.Pairwise (· ≤ ·)) ∨
        ∃ diagnostic, diagnostics = [diagnostic] ∧ diagnostic.kind = .eval ∧
          diagnostic.line? = none) := by
  obtain ⟨places, placed⟩ := Parsing.exists_places (lex source)
  constructor
  · intro errors failed
    obtain ⟨rfl, -⟩ := Parsing.result_eq_error_iff.mp failed
    refine ⟨⟨places, placed.ordered, placed.classified⟩, ?_⟩
    intro front expected line others split
    rw [Parsing.ofSource] at split
    rw [split] at placed
    exact placed.eq_nil_of_prematureEnd
  · intro State sink depth scope world trace diagnostics faulty
    cases parsed : (Parsing.ofSource source).result with
    | error errors =>
        obtain ⟨rfl, some⟩ := Parsing.result_eq_error_iff.mp parsed
        rw [(evaluateWith_of_error sink depth scope world trace parsed).1] at faulty
        cases faulty
        refine ⟨by simpa using some, .inl ⟨?_, _, ?_, placed.lines⟩⟩
        · rw [List.forall_mem_map]
          intro error _
          rw [Diagnostic.kind]
          split
          · exact .inl rfl
          · exact .inr rfl
        · simp [Diagnostic.line?, Parsing.ofSource, Function.comp_def]
    | ok program =>
        rw [(evaluateWith_of_ok sink depth scope world trace parsed).1] at faulty
        generalize (runStatements _ _ _ _ _ _).1 = ending at faulty
        rcases ending with (_ | error | _) | _ <;> cases faulty
        exact ⟨by simp, .inr ⟨_, rfl, rfl, rfl⟩⟩

end Ember
