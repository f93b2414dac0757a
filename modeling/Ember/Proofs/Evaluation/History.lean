import Ember.Proofs.Evaluation.Congruence

/-!
# Histories

A history says of a run which nodes were begun and ended, in which order and where. It
does not depend on who listens: a sink hears the ends of nodes in the order of the
history, and nothing that it does with them comes back to the evaluation.

So all runs of a program from one store come to the same, whatever their sinks, and what
a sink keeps is what it makes of the events of one history.
-/

namespace Ember

/-- What happens to a node in the course of a run. -/
inductive Moment where
  | begun (node : Node) (context : Context)
  /-- The node came to a result, and this is the store by then. -/
  | ended (node : Node) (context : Context) (result : NodeResult) (store : Store)
  deriving DecidableEq, Repr

/-- The event that a sink may hear of, if it is the end of a node. -/
def Moment.event? : Moment → Option Event
  | .begun _ _ => none
  | .ended node _ result _ => some (.node node.kind result)

/-- The events of a history. -/
def events (history : List Moment) : List Event :=
  history.filterMap Moment.event?

@[simp] theorem events_append (history others : List Moment) :
    events (history ++ others) = events history ++ events others :=
  List.filterMap_append

/-- Notes when a node begins, and when it ends unless the bound was reached. -/
def Eval.noted (node : Node) (context : Context) (computation : Eval (List Moment) Value) :
    Eval (List Moment) Value := fun machine =>
  let (outcome, after) :=
    computation { machine with trace := machine.trace ++ [.begun node context] }
  match Eval.report? outcome with
  | none => (outcome, after)
  | some result =>
    (outcome, { after with trace := after.trace ++ [.ended node context result after.store] })

theorem Eval.noted_eq {node : Node} {context : Context} {computation : Eval (List Moment) Value}
    {store after : Store} {history more : List Moment} {outcome : Except Signal Value}
    (inside : computation ⟨store, history ++ [.begun node context]⟩ = (outcome, ⟨after, more⟩)) :
    computation.noted node context ⟨store, history⟩ =
      (outcome, ⟨after, match Eval.report? outcome with
        | none => more
        | some result => more ++ [.ended node context result after]⟩) := by
  simp only [noted, inside]
  cases Eval.report? outcome with
  | none => rfl
  | some result => rfl

/-- Evaluates a node, and keeps the history. -/
def followNode : Nat → Node → Context → Eval (List Moment) Value
  | 0, _, _ => Eval.signal .exhausted
  | depth + 1, node, context => Eval.noted node context (node.step (followNode depth) context)

/-- Evaluates a block, and gives the history of that. -/
def followBlock (depth : Nat) (context : Context) (block : Block) (store : Store) :
    Except Signal Value × Machine (List Moment) :=
  evalBlock (followNode depth) context block ⟨store, []⟩

namespace Sink

variable {State : Type} (sink : Sink State)

/-- Tells a sink of an event, if it wants to hear of one. -/
def hear (trace : State) (event : Event) : State :=
  if sink.enabled trace then sink.record event trace else trace

/-- Tells a sink of events, one after the other. -/
def hearAll (events : List Event) (trace : State) : State :=
  events.foldl sink.hear trace

@[simp] theorem hearAll_append (events others : List Event) (trace : State) :
    sink.hearAll (events ++ others) trace = sink.hearAll others (sink.hearAll events trace) :=
  List.foldl_append

/-- A recorder keeps what it hears. -/
theorem hearAll_recorder (events : List Event) (trace : Array Event) :
    recorder.hearAll events trace = trace ++ events.toArray := by
  induction events generalizing trace with
  | nil => simp [hearAll]
  | cons event rest ih =>
      have step : recorder.hearAll (event :: rest) trace =
          recorder.hearAll rest (trace.push event) := rfl
      rw [step, ih]
      simp

/-- A limited recorder keeps what it hears until it is full. -/
theorem hearAll_limited (limit : Nat) (events : List Event) (trace : Array Event) :
    (limited limit).hearAll events trace =
      trace ++ (events.take (limit - trace.size)).toArray := by
  induction events generalizing trace with
  | nil => simp [hearAll]
  | cons event rest ih =>
      have step : (limited limit).hearAll (event :: rest) trace =
          (limited limit).hearAll rest ((limited limit).hear trace event) := rfl
      rw [step, ih]
      by_cases room : trace.size < limit
      · have kept : (limited limit).hear trace event = trace.push event := by
          simp [hear, limited, room]
        obtain ⟨more, left⟩ : ∃ more, limit - trace.size = more + 1 :=
          ⟨limit - trace.size - 1, by omega⟩
        have fewer : limit - (trace.push event).size = more := by
          rw [Array.size_push]
          omega
        rw [kept, fewer, left, List.take_succ_cons]
        simp
      · have dropped : (limited limit).hear trace event = trace := by
          simp [hear, limited, room]
        have full : limit - trace.size = 0 := by omega
        rw [dropped, full, List.take_zero, List.take_zero]

end Sink

namespace Eval

variable {Left Right : Type}

/-- Computations that come to the same in the same store, whatever their traces, and
leave the same store. Traces that are alike stay so. -/
def Alongside (alike : Left → Right → Prop) (α : Type) (left : Eval Left α)
    (right : Eval Right α) : Prop :=
  ∀ store leftTrace rightTrace, alike leftTrace rightTrace →
    (left ⟨store, leftTrace⟩).1 = (right ⟨store, rightTrace⟩).1 ∧
      (left ⟨store, leftTrace⟩).2.store = (right ⟨store, rightTrace⟩).2.store ∧
      alike (left ⟨store, leftTrace⟩).2.trace (right ⟨store, rightTrace⟩).2.trace

/-- Ends of computations that come to the same, in the same store. -/
theorem Alongside.exists_ends {alike : Left → Right → Prop} {α : Type} {left : Eval Left α}
    {right : Eval Right α} (alongside : Alongside alike α left right) (store : Store)
    {leftTrace : Left} {rightTrace : Right} (same : alike leftTrace rightTrace) :
    ∃ outcome after leftAfter rightAfter, alike leftAfter rightAfter ∧
      left ⟨store, leftTrace⟩ = (outcome, ⟨after, leftAfter⟩) ∧
      right ⟨store, rightTrace⟩ = (outcome, ⟨after, rightAfter⟩) := by
  obtain ⟨outcomes, stores, traces⟩ := alongside store leftTrace rightTrace same
  refine ⟨_, _, _, _, traces, rfl, ?_⟩
  rw [outcomes, stores]

theorem congruence_alongside (alike : Left → Right → Prop) : Congruence (Alongside alike) where
  pure _ _ _ _ same := ⟨rfl, rfl, same⟩
  signal _ _ _ _ same := ⟨rfl, rfl, same⟩
  bind := by
    intro α β left right leftNext rightNext first next store leftTrace rightTrace same
    obtain ⟨outcome, after, leftAfter, rightAfter, still, leftEnd, rightEnd⟩ :=
      first.exists_ends store same
    rw [bind_apply, bind_apply, leftEnd, rightEnd]
    cases outcome with
    | error cause => exact ⟨rfl, rfl, still⟩
    | ok result => exact next result after leftAfter rightAfter still
  find scope name store leftTrace rightTrace same := by
    rw [Eval.find, Eval.find]
    cases store.find? name scope with
    | none => exact ⟨rfl, rfl, same⟩
    | some value => exact ⟨rfl, rfl, same⟩
  define _ _ _ _ _ _ same := ⟨rfl, rfl, same⟩
  attempt := by
    intro α left right alongside store leftTrace rightTrace same
    obtain ⟨outcome, after, leftAfter, rightAfter, still, leftEnd, rightEnd⟩ :=
      alongside.exists_ends store same
    rw [attempt, attempt, leftEnd, rightEnd]
    rcases outcome with (_ | _ | _) | _ <;> exact ⟨rfl, rfl, still⟩
  catchReturn := by
    intro left right alongside store leftTrace rightTrace same
    obtain ⟨outcome, after, leftAfter, rightAfter, still, leftEnd, rightEnd⟩ :=
      alongside.exists_ends store same
    rw [catchReturn, catchReturn, leftEnd, rightEnd]
    rcases outcome with (_ | _ | _) | _ <;> exact ⟨rfl, rfl, still⟩
  enter _ _ _ _ same := ⟨rfl, rfl, same⟩

/-- The trace is what a sink makes of the events of the history. -/
def Heard {State : Type} (sink : Sink State) (start : State) (history : List Moment)
    (trace : State) : Prop :=
  trace = sink.hearAll (events history) start

theorem Alongside.noted {State : Type} {sink : Sink State} {start : State}
    {follow : Eval (List Moment) Value} {computation : Eval State Value}
    (alongside : Alongside (Heard sink start) Value follow computation) (node : Node)
    (context : Context) :
    Alongside (Heard sink start) Value (follow.noted node context)
      (computation.observe sink node.kind) := by
  intro store history trace heard
  have begun : Heard sink start (history ++ [.begun node context]) trace := by
    have silent : events [.begun node context] = [] := rfl
    rw [Heard, events_append, silent, List.append_nil]
    exact heard
  obtain ⟨outcome, after, historyAfter, traceAfter, still, followed, computed⟩ :=
    alongside.exists_ends store begun
  rw [Eval.noted_eq followed, Eval.observe, computed]
  dsimp only
  cases Eval.report? outcome with
  | none => exact ⟨rfl, rfl, still⟩
  | some result =>
      have ended : Heard sink start (historyAfter ++ [.ended node context result after])
          (sink.hear traceAfter (.node node.kind result)) := by
        rw [Heard, events_append, Sink.hearAll_append, ← still]
        rfl
      rw [Sink.hear] at ended
      cases wants : sink.enabled traceAfter with
      | true =>
          rw [if_pos wants] at ended
          exact ⟨rfl, rfl, ended⟩
      | false =>
          rw [if_neg (by simp [wants])] at ended
          exact ⟨rfl, rfl, ended⟩

/-- A sink hears of the history of a node, and has no other part in its evaluation. -/
theorem alongside_evalNode {State : Type} (sink : Sink State) (start : State) (depth : Nat)
    (node : Node) (context : Context) :
    Alongside (Heard sink start) Value (followNode depth node context)
      (evalNode sink depth node context) := by
  induction depth generalizing node context with
  | zero =>
      intro store history trace heard
      exact ⟨rfl, rfl, heard⟩
  | succ depth ih =>
      apply Alongside.noted
      exact (congruence_alongside _).node_step ih node context

end Eval

/-- A block comes to the same with every sink, and the sink hears of its history. -/
theorem evalBlock_eq_followBlock {State : Type} (sink : Sink State) (depth : Nat)
    (context : Context) (block : Block) (store : Store) (trace : State) :
    evalBlock (evalNode sink depth) context block ⟨store, trace⟩ =
      ((followBlock depth context block store).1,
        ⟨(followBlock depth context block store).2.store,
          sink.hearAll (events (followBlock depth context block store).2.trace) trace⟩) := by
  have alongside := (Eval.congruence_alongside (Eval.Heard sink trace)).evalBlock
    (Eval.alongside_evalNode sink trace depth) context block
  have heard : Eval.Heard sink trace [] trace := rfl
  obtain ⟨outcome, after, history, heardAfter, still, followed, evaluated⟩ :=
    alongside.exists_ends store heard
  rw [followBlock, followed, evaluated, still]

end Ember
