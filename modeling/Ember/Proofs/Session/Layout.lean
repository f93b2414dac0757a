import Ember.Proofs.Parser.Kinds
import Ember.Proofs.Session.Tracing
import Ember.Proofs.Token.Layout

/-!
# Sources with another layout

How the tokens of a source are laid out makes no difference but to the lines in its
diagnostics. A source whose tokens are written out anew, with any blanks between them, has
tokens of the same kinds; so it is parsed as the same program or has the same errors, and
it comes to the same.
-/

namespace Ember

/-- What a diagnostic says apart from its line. -/
def Diagnostic.unplaced : Diagnostic → Diagnostic
  | .syntactic error => .syntactic error.unplaced
  | .evaluation error => .evaluation error

/-- What an outcome is apart from the lines in its diagnostics. -/
def Outcome.unplaced : Outcome → Outcome
  | .value result => .value result
  | .faulty diagnostics => .faulty (diagnostics.map Diagnostic.unplaced)
  | .exhausted => .exhausted

theorem Outcome.unplaced_syntactic (errors : List SyntaxError) :
    (Outcome.faulty (errors.map .syntactic)).unplaced =
      .faulty ((errors.map SyntaxError.unplaced).map .syntactic) := by
  rw [Outcome.unplaced, List.map_map, List.map_map]
  rfl

/-- Sources that are parsed alike come to the same, but for the lines of errors, and leave
the same world. -/
theorem evaluateWith_of_unplacedResult {State : Type} (sink : Sink State) (depth : Nat)
    {source other : String} (scope : ScopeId) (world : World) (trace : State)
    (same : (Parsing.ofSource source).unplacedResult = (Parsing.ofSource other).unplacedResult) :
    (evaluateWith sink depth source scope world trace).outcome.unplaced =
        (evaluateWith sink depth other scope world trace).outcome.unplaced ∧
      (evaluateWith sink depth source scope world trace).world =
        (evaluateWith sink depth other scope world trace).world := by
  rw [evaluateWith_eq, evaluateWith_eq sink]
  dsimp only
  unfold Parsing.unplacedResult at same
  cases parsed : (Parsing.ofSource source).result with
  | error errors =>
      cases parsedOther : (Parsing.ofSource other).result with
      | ok program =>
          rw [parsed, parsedOther] at same
          cases same
      | error others =>
          rw [parsed, parsedOther] at same
          obtain ⟨outcome, after⟩ := evaluateWith_of_error .silent depth scope world () parsed
          obtain ⟨otherOutcome, otherAfter⟩ :=
            evaluateWith_of_error .silent depth scope world () parsedOther
          rw [outcome, after, otherOutcome, otherAfter, Outcome.unplaced_syntactic,
            Outcome.unplaced_syntactic, Except.error.inj same]
          exact ⟨rfl, rfl⟩
  | ok program =>
      cases parsedOther : (Parsing.ofSource other).result with
      | error others =>
          rw [parsed, parsedOther] at same
          cases same
      | ok otherProgram =>
          rw [parsed, parsedOther] at same
          obtain rfl : program = otherProgram := Except.ok.inj same
          obtain ⟨outcome, after⟩ := evaluateWith_of_ok .silent depth scope world () parsed
          obtain ⟨otherOutcome, otherAfter⟩ :=
            evaluateWith_of_ok .silent depth scope world () parsedOther
          rw [outcome, after, otherOutcome, otherAfter]
          exact ⟨rfl, rfl⟩

/-- Layout does not matter. Whatever blanks stand between the tokens of a source, the kinds
of the tokens are the same; the program is the same, or the errors are, in the same order
and but for their lines; and so are the outcome and the world that is left, with every bound
on the nesting, in every scope of every world and with every sink. -/
theorem layout_irrelevant (gaps : Nat → Gap) (source : String) :
    (lex (relaid gaps source)).map Token.kind = (lex source).map Token.kind ∧
      (Parsing.ofSource (relaid gaps source)).result.mapError (List.map SyntaxError.unplaced) =
        (Parsing.ofSource source).result.mapError (List.map SyntaxError.unplaced) ∧
      (∀ depth world,
        (evaluate depth (relaid gaps source) world).outcome.unplaced =
            (evaluate depth source world).outcome.unplaced ∧
          (evaluate depth (relaid gaps source) world).world =
            (evaluate depth source world).world) ∧
      ∀ (State : Type) (sink : Sink State) depth scope world trace,
        (evaluateWith sink depth (relaid gaps source) scope world trace).outcome.unplaced =
            (evaluateWith sink depth source scope world trace).outcome.unplaced ∧
          (evaluateWith sink depth (relaid gaps source) scope world trace).world =
            (evaluateWith sink depth source scope world trace).world := by
  have kinds := map_kind_lex_relaid gaps source
  have parsed : (Parsing.ofSource (relaid gaps source)).unplacedResult =
      (Parsing.ofSource source).unplacedResult := Parsing.unplacedResult_ofTokens kinds
  refine ⟨kinds, parsed, ?_, ?_⟩
  · intro depth world
    exact evaluateWith_of_unplacedResult .silent depth _ _ () parsed
  · intro State sink depth scope world trace
    exact evaluateWith_of_unplacedResult sink depth scope world trace parsed

end Ember
