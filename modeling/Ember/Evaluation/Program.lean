import Ember.Evaluation.Step

/-!
# Evaluation

The value of a program in a scope. Every node is reported to the sink after the
nodes inside it. A program may run for ever, so that evaluation takes a bound on
how deep evaluations of nodes may nest.
-/

namespace Ember

/-- Evaluates a node, with evaluations nested no deeper than the bound. -/
def evalNode {State : Type} (sink : Sink State) : Nat → Node → Context → Eval State Value
  | 0, _, _ => Eval.signal .exhausted
  | depth + 1, node, context =>
    Eval.observe sink node.kind (node.step (evalNode sink depth) context)

/-- How the evaluation of a program ends. -/
inductive Completion where
  | value (value : Value)
  | failed (error : EvalError)
  /-- The bound on the nesting was reached. -/
  | exhausted
  deriving DecidableEq, Repr

namespace Completion

/-- A return outside of all functions ends the program with its value. -/
def ofResult : Except Signal Value → Completion
  | .ok result => .value result
  | .error (.returned result) => .value result
  | .error (.failed error) => .failed error
  | .error .exhausted => .exhausted

end Completion

/-- Evaluates a program: its value is that of its last statement, or null. -/
def evalProgram {State : Type} (sink : Sink State) (depth : Nat) (context : Context)
    (program : Program) (machine : Machine State) : Completion × Machine State :=
  let (result, after) := evalBlock (evalNode sink depth) context program machine
  (.ofResult result, after)

end Ember
