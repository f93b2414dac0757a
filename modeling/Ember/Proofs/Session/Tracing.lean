import Ember.Proofs.Evaluation.History
import Ember.Proofs.Session.Basic

/-!
# Tracing a source

A source comes to the same with every sink, and it ends with one exactly if it ends with
any other. What a sink keeps is what it makes of the events of the parse and then of the
nodes, so a recorder that stops listening has a beginning of what one that listens to the
end has.
-/

namespace Ember

section Sources

variable {State : Type} (sink : Sink State) (source : String) (scope : ScopeId) (world : World)
  (trace : State)

/-- A source ends with this evaluation, once evaluations may nest deep enough. -/
def EvaluatesTo (evaluation : Evaluation State) : Prop :=
  ∃ depth, evaluateWith sink depth source scope world trace = evaluation ∧
    evaluation.outcome ≠ .exhausted

/-- The events of the nodes that are evaluated for a source. -/
def nodeEvents (depth : Nat) : List Event :=
  match (Parsing.ofSource source).result with
  | .error _ => []
  | .ok program =>
    events (followBlock depth ⟨scope, .root world.programs⟩ program world.store).2.trace

/-- What a source comes to and what it leaves depend on the sink in nothing but the
trace, and that is what the sink makes of the events. -/
theorem evaluateWith_eq (depth : Nat) :
    evaluateWith sink depth source scope world trace =
      ⟨Parsing.ofSource source, (evaluateWith .silent depth source scope world ()).outcome,
        (evaluateWith .silent depth source scope world ()).world,
        sink.hearAll (nodeEvents source scope world depth)
          (sink.recordAll (Parsing.ofSource source).events trace)⟩ := by
  cases parsed : (Parsing.ofSource source).result with
  | error errors =>
      simp only [evaluateWith, nodeEvents, parsed]
      rfl
  | ok program =>
      simp only [evaluateWith, nodeEvents, parsed, World.number, NumberedProgram.run, evalProgram,
        evalBlock_eq_followBlock]

/-- A larger bound on the nesting changes nothing about a source that has ended. -/
theorem evaluateWith_of_le {depth larger : Nat} (enough : depth ≤ larger)
    (ended : (evaluateWith sink depth source scope world trace).outcome ≠ .exhausted) :
    evaluateWith sink larger source scope world trace =
      evaluateWith sink depth source scope world trace := by
  cases parsed : (Parsing.ofSource source).result with
  | error errors => simp only [evaluateWith, parsed]
  | ok program =>
      simp only [evaluateWith, parsed, World.number, NumberedProgram.run, evalProgram] at ended ⊢
      rcases Eval.congruence_refines.evalBlock (Eval.refines_evalNode sink enough)
          ⟨scope, .root world.programs⟩ program
          ⟨world.store, sink.recordAll (Parsing.ofSource source).events trace⟩ with
        ⟨after, exhausted⟩ | same
      · rw [exhausted] at ended
        exact absurd rfl ended
      · rw [same]

end Sources

section Sinks

variable {Left Right : Type} {leftSink : Sink Left} {rightSink : Sink Right} {source : String}
  {scope : ScopeId} {world : World} {leftTrace : Left} {rightTrace : Right}

/-- Where a source ends with one sink it ends with any other. -/
theorem EvaluatesTo.exists_other {left : Evaluation Left}
    (ends : EvaluatesTo leftSink source scope world leftTrace left) (rightSink : Sink Right)
    (rightTrace : Right) :
    ∃ right, EvaluatesTo rightSink source scope world rightTrace right := by
  obtain ⟨depth, rfl, ended⟩ := ends
  refine ⟨_, depth, rfl, ?_⟩
  rw [evaluateWith_eq] at ended ⊢
  exact ended

/-- Two evaluations that end do so within one bound. -/
theorem EvaluatesTo.exists_depth {left : Evaluation Left} {right : Evaluation Right}
    (leftEnds : EvaluatesTo leftSink source scope world leftTrace left)
    (rightEnds : EvaluatesTo rightSink source scope world rightTrace right) :
    ∃ depth, evaluateWith leftSink depth source scope world leftTrace = left ∧
      evaluateWith rightSink depth source scope world rightTrace = right := by
  obtain ⟨leftDepth, rfl, leftEnded⟩ := leftEnds
  obtain ⟨rightDepth, rfl, rightEnded⟩ := rightEnds
  exact ⟨max leftDepth rightDepth,
    evaluateWith_of_le _ _ _ _ _ (Nat.le_max_left _ _) leftEnded,
    evaluateWith_of_le _ _ _ _ _ (Nat.le_max_right _ _) rightEnded⟩

end Sinks

/-- A recorder keeps all events of a parse, whether it is limited or not. -/
theorem recordAll_recorder (parsed : List ParseEvent) (trace : Array Event) :
    Sink.recorder.recordAll parsed trace = trace ++ (parsed.map Event.parse).toArray := by
  induction parsed generalizing trace with
  | nil => simp [Sink.recordAll]
  | cons event rest ih =>
      have step : Sink.recorder.recordAll (event :: rest) trace =
          Sink.recorder.recordAll rest (trace.push (.parse event)) := rfl
      rw [step, ih]
      simp

theorem exists_of_mem_nodeEvents {source : String} {scope : ScopeId} {world : World} {depth : Nat}
    {event : Event} (member : event ∈ nodeEvents source scope world depth) :
    ∃ kind result, event = .node kind result := by
  unfold nodeEvents at member
  split at member
  · cases member
  · obtain ⟨moment, -, heard⟩ := List.mem_filterMap.mp member
    cases moment with
    | begun => cases heard
    | ended node context result store =>
        cases heard
        exact ⟨node.kind, result, rfl⟩

/-- Tracing never changes what a source comes to: with any two sinks it ends or not alike,
with the same outcome and the same scopes. A recorder that listens to nodes only as long
as it has fewer events than a limit keeps all events of the parse, and then as many of the
node events of the unlimited recorder, from the first on, as there is room for. -/
theorem tracing_changes_nothing {Left Right : Type} (leftSink : Sink Left) (rightSink : Sink Right)
    (source : String) (scope : ScopeId) (world : World) (leftTrace : Left) (rightTrace : Right) :
    ((∃ left, EvaluatesTo leftSink source scope world leftTrace left) ↔
        ∃ right, EvaluatesTo rightSink source scope world rightTrace right) ∧
      (∀ left right, EvaluatesTo leftSink source scope world leftTrace left →
        EvaluatesTo rightSink source scope world rightTrace right →
          left.outcome = right.outcome ∧ left.world = right.world) ∧
      ∀ limit whole part, EvaluatesTo .recorder source scope world #[] whole →
        EvaluatesTo (.limited limit) source scope world #[] part →
          ∃ parsed nodes : List Event, parsed = (Parsing.ofSource source).events.map .parse ∧
            (∀ event ∈ nodes, ∃ kind result, event = .node kind result) ∧
            whole.trace.toList = parsed ++ nodes ∧
            part.trace.toList = parsed ++ nodes.take (limit - parsed.length) := by
  refine ⟨⟨?_, ?_⟩, ?_, ?_⟩
  · rintro ⟨left, ends⟩
    exact ends.exists_other rightSink rightTrace
  · rintro ⟨right, ends⟩
    exact ends.exists_other leftSink leftTrace
  · intro left right leftEnds rightEnds
    obtain ⟨depth, rfl, rfl⟩ := leftEnds.exists_depth rightEnds
    rw [evaluateWith_eq leftSink, evaluateWith_eq rightSink]
    exact ⟨rfl, rfl⟩
  · intro limit whole part wholeEnds partEnds
    obtain ⟨depth, rfl, rfl⟩ := wholeEnds.exists_depth partEnds
    have noted : (Sink.limited limit).recordAll (Parsing.ofSource source).events #[] =
        #[] ++ ((Parsing.ofSource source).events.map Event.parse).toArray :=
      recordAll_recorder _ _
    refine ⟨_, nodeEvents source scope world depth, rfl,
      fun event member => exists_of_mem_nodeEvents member, ?_, ?_⟩
    · rw [evaluateWith_eq, Sink.hearAll_recorder, recordAll_recorder]
      simp
    · rw [evaluateWith_eq, Sink.hearAll_limited, noted]
      simp

end Ember
