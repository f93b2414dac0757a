import Ember.Syntax.Program
import Ember.Value.Error
import Ember.Value.Identity
import Ember.Value.Printer

/-!
# Traces

A sink takes note of what happens while a program is parsed and evaluated. It
has a state of its own, and it can switch itself off: the evaluator asks before
every event whether the sink still wants one, the parser does not.
-/

namespace Ember

/-- What evaluating a node came to. -/
inductive NodeResult where
  | value (value : Value)
  /-- A statement left the function that is running. -/
  | returned (value : Value)
  | failed (error : EvalError)
  deriving DecidableEq, Repr

namespace NodeResult

/-- The text of a result. -/
def render : NodeResult → String
  | .value result => result.render
  | .returned result => "return " ++ result.render
  | .failed error => "error: " ++ error.message

end NodeResult

/-- Something that a sink may note. -/
inductive Event where
  | parse (event : ParseEvent)
  /-- A node was evaluated. -/
  | node (kind : NodeKind) (result : NodeResult)
  deriving DecidableEq, Repr

namespace Event

/-- The text of an event. -/
def render : Event → String
  | .parse event => event.render
  | .node kind result => kind.name ++ " => " ++ result.render

end Event

/-- What is done with events, given the state that the sink keeps. -/
structure Sink (State : Type) where
  record : Event → State → State
  /-- Whether the sink wants to hear of evaluated nodes. The evaluator asks exactly once before
  each of them, and asking changes nothing. A sink whose state changes when it is asked is
  one that always wants to hear, and asks itself when it records. -/
  enabled : State → Bool

namespace Sink

/-- Notes nothing. -/
def silent : Sink Unit where
  record _ state := state
  enabled _ := false

/-- Keeps all events, in order. -/
def recorder : Sink (Array Event) where
  record event events := events.push event
  enabled _ := true

/-- Keeps the events that it is told, but wants to hear of nodes only while it
has fewer events than the limit. -/
def limited (limit : Nat) : Sink (Array Event) where
  record event events := events.push event
  enabled events := events.size < limit

/-- Notes all events of a parse. -/
def recordAll {State : Type} (sink : Sink State) (events : List ParseEvent) (state : State) :
    State :=
  events.foldl (fun state event => sink.record (.parse event) state) state

end Sink

end Ember
