import Ember.Proofs.Evaluation.View
import Ember.Proofs.Syntax.Reading
import Ember.Session

/-!
# What sources come to

The evaluation of a source in terms of the evaluation of its statements. A source
with a syntax error changes nothing; any other is evaluated as a block, and its
outcome is how that block ends. So what holds of two runs with a view in common carries
over to sources.
-/

namespace Ember

/-- What a source comes to when its statements end like this. -/
def Outcome.ofResult : Except Signal Value → Outcome
  | .ok result => .value result
  | .error (.returned result) => .value result
  | .error (.failed error) => .faulty [.evaluation error]
  | .error .exhausted => .exhausted

section Sources

variable {State : Type} (sink : Sink State) (depth : Nat) {source : String} (scope : ScopeId)
  (world : World) (trace : State)

/-- The evaluation of the statements of a source. -/
def runStatements (program : Program) (noted : State) : Except Signal Value × Machine State :=
  evalBlock (evalNode sink depth) ⟨scope, .root world.programs⟩ program ⟨world.store, noted⟩

theorem evaluateWith_of_ok {program : Program}
    (parsed : (Parsing.ofSource source).result = .ok program) :
    (evaluateWith sink depth source scope world trace).outcome =
        .ofResult (runStatements sink depth scope world program
          (sink.recordAll (Parsing.ofSource source).events trace)).1 ∧
      (evaluateWith sink depth source scope world trace).world =
        ⟨(runStatements sink depth scope world program
          (sink.recordAll (Parsing.ofSource source).events trace)).2.store,
          world.programs + 1⟩ := by
  simp only [evaluateWith, parsed, World.number, NumberedProgram.run, evalProgram, runStatements,
    and_true]
  rcases evalBlock _ _ _ _ with ⟨(_ | _ | _) | _, after⟩ <;> rfl

theorem evaluateWith_of_error {errors : List SyntaxError}
    (parsed : (Parsing.ofSource source).result = .error errors) :
    (evaluateWith sink depth source scope world trace).outcome =
        .faulty (errors.map .syntactic) ∧
      (evaluateWith sink depth source scope world trace).world = world := by
  simp only [evaluateWith, parsed, and_self]

end Sources

/-- Outcomes with values that are alike, or with the same faults. -/
inductive OutcomesAlike (likeness : Likeness) : Outcome → Outcome → Prop where
  | value {left right : Value} :
      Alike likeness left right → OutcomesAlike likeness (.value left) (.value right)
  | faulty (diagnostics : List Diagnostic) :
      OutcomesAlike likeness (.faulty diagnostics) (.faulty diagnostics)
  | exhausted : OutcomesAlike likeness .exhausted .exhausted

theorem EndsAlike.outcomes {likeness : Likeness} {left right : Except Signal Value}
    (ends : EndsAlike (Alike likeness) (Alike likeness) left right) :
    OutcomesAlike likeness (.ofResult left) (.ofResult right) := by
  cases ends with
  | ok alike => exact .value alike
  | returned alike => exact .value alike
  | failed error => exact .faulty _
  | exhausted => exact .exhausted

/-- A source comes to what is alike in two worlds with a view in common, and the worlds
have that view in common afterwards. -/
theorem View.evaluateWith {Left Right : Type} (view : View) (leftSink : Sink Left)
    (rightSink : Sink Right) (depth : Nat) (source : String)
    (passes : ∀ program, (Parsing.ofSource source).result = .ok program →
      ∀ statement ∈ program, statement.all view.test view.stmtTest)
    {leftScope rightScope : ScopeId} {left right : World}
    (contexts : view.Contexts ⟨leftScope, .root left.programs⟩ ⟨rightScope, .root right.programs⟩)
    (stores : view.Stores left.store right.store) (leftTrace : Left) (rightTrace : Right) :
    OutcomesAlike view.likeness
        (evaluateWith leftSink depth source leftScope left leftTrace).outcome
        (evaluateWith rightSink depth source rightScope right rightTrace).outcome ∧
      view.Stores (evaluateWith leftSink depth source leftScope left leftTrace).world.store
        (evaluateWith rightSink depth source rightScope right rightTrace).world.store := by
  cases parsed : (Parsing.ofSource source).result with
  | error errors =>
      obtain ⟨leftOutcome, leftWorld⟩ :=
        evaluateWith_of_error leftSink depth leftScope left leftTrace parsed
      obtain ⟨rightOutcome, rightWorld⟩ :=
        evaluateWith_of_error rightSink depth rightScope right rightTrace parsed
      rw [leftOutcome, leftWorld, rightOutcome, rightWorld]
      exact ⟨.faulty _, stores⟩
  | ok program =>
      obtain ⟨leftOutcome, leftWorld⟩ :=
        evaluateWith_of_ok leftSink depth leftScope left leftTrace parsed
      obtain ⟨rightOutcome, rightWorld⟩ :=
        evaluateWith_of_ok rightSink depth rightScope right rightTrace parsed
      let same := view.correspondence leftSink rightSink
      have started (leftNoted : Left) (rightNoted : Right) :
          same.machine ⟨left.store, leftNoted⟩ ⟨right.store, rightNoted⟩ :=
        ⟨stores, trivial⟩
      have related := Correspondence.related_evalBlock (same.related_evalNode depth)
        (show same.context _ _ from contexts) (passes program parsed)
      obtain ⟨ends, after⟩ := related _ _ (started
        (leftSink.recordAll (Parsing.ofSource source).events leftTrace)
        (rightSink.recordAll (Parsing.ofSource source).events rightTrace))
      rw [leftOutcome, leftWorld, rightOutcome, rightWorld]
      exact ⟨ends.outcomes, after.1⟩

/-- A silent sink takes no part in the evaluation. -/
theorem observe_silent (kind : NodeKind) (computation : Eval Unit Value) :
    computation.observe .silent kind = computation := by
  funext machine
  rw [Eval.observe]
  rcases computation machine with ⟨(_ | _ | _) | _, store, trace⟩ <;> rfl

theorem evalNode_silent (depth : Nat) (node : Node) (context : Context) :
    evalNode .silent (depth + 1) node context =
      node.step (evalNode .silent depth) context := by
  rw [evalNode, observe_silent]

/-- A text that is read as an expression comes to what the expression comes to in a
scope of its own. -/
theorem evaluate_of_readsAs {text : String} {tier : Grammar.Tier} {tree : Expr}
    (read : ReadsAs text tier tree) (world : World) :
    ∃ context machine, machine.store.scope? context.scope = some ⟨[], none⟩ ∧
      ∀ depth, (evaluate (depth + 1) text world).outcome =
        .ofResult (evalNode .silent depth (.expr tree) context machine).1 := by
  refine ⟨⟨(world.store.enter none).1, ((Site.root world.programs).child 0).child 0⟩,
    ⟨(world.store.enter none).2, ()⟩, Store.scope?_enter_self world.store none, ?_⟩
  intro depth
  have outcome := (evaluateWith_of_ok .silent (depth + 1) (world.store.enter none).1
    ⟨(world.store.enter none).2, world.programs⟩ () read.result_ofSource).1
  refine outcome.trans ?_
  rw [runStatements, evalBlock, evalStatements]
  simp only [evalStatements, bind_pure, evalNode_silent]
  rfl

end Ember
