import Ember.Store
import Ember.Trace
import Ember.Value.Operation

/-!
# Computations of the evaluator

A computation changes a machine, which is the store and what a sink keeps, and
comes to a result or to a signal. An error ends the program; a return ends the
function that is running, or the program outside of all functions. That the bound
on the nesting was reached is a signal of its own, and no error of the language.
-/

namespace Ember

/-- What cuts an evaluation short. -/
inductive Signal where
  | returned (value : Value)
  | failed (error : EvalError)
  /-- The bound on the nesting was reached. -/
  | exhausted
  deriving DecidableEq, Repr

/-- What evaluation changes: the scopes, and what the sink keeps. -/
structure Machine (State : Type) where
  store : Store
  trace : State

/-- A computation that ends with a result or a signal and a changed machine. -/
def Eval (State Result : Type) : Type :=
  Machine State → Except Signal Result × Machine State

/-- A node of a tree. -/
inductive Node where
  | expr (expression : Expr)
  | stmt (statement : Stmt)
  deriving DecidableEq, Repr

namespace Node

/-- The production of a node. -/
def kind : Node → NodeKind
  | .expr expression => expression.kind
  | .stmt statement => statement.kind

end Node

/-- Where a node is evaluated: in which scope, and at which place of the tree. -/
structure Context where
  scope : ScopeId
  site : Site
  deriving DecidableEq, Repr

namespace Context

/-- The context of a part of a node. -/
def child (context : Context) (position : Nat) : Context :=
  { context with site := context.site.child position }

end Context

namespace Eval

variable {State Result : Type}

instance : Monad (Eval State) where
  pure result := fun machine => (.ok result, machine)
  bind computation next := fun machine =>
    match computation machine with
    | (.ok result, after) => next result after
    | (.error signal, after) => (.error signal, after)

theorem bind_apply {Next : Type} (computation : Eval State Result)
    (next : Result → Eval State Next) (machine : Machine State) :
    (computation >>= next) machine =
      match computation machine with
      | (.ok result, after) => next result after
      | (.error signal, after) => (.error signal, after) := rfl

@[simp] theorem pure_apply (result : Result) (machine : Machine State) :
    (pure result : Eval State Result) machine = (.ok result, machine) := rfl

theorem map_id_of_eval (computation : Eval State Result) : id <$> computation = computation := by
  funext machine
  show (computation >>= fun result => pure (id result)) machine = computation machine
  rw [bind_apply]
  split <;> simp_all

theorem pure_bind_of_eval {Next : Type} (result : Result) (next : Result → Eval State Next) :
    pure result >>= next = next result := by
  funext machine
  simp [bind_apply]

theorem bind_assoc_of_eval {Next Last : Type} (computation : Eval State Result)
    (first : Result → Eval State Next) (second : Next → Eval State Last) :
    computation >>= first >>= second =
      computation >>= fun result => first result >>= second := by
  funext machine
  simp only [bind_apply]
  rcases computation machine with ⟨_ | result, after⟩ <;> rfl

instance : LawfulMonad (Eval State) :=
  LawfulMonad.mk' (Eval State) map_id_of_eval pure_bind_of_eval bind_assoc_of_eval

/-- Ends with a signal. -/
def signal (cause : Signal) : Eval State Result := fun machine =>
  (.error cause, machine)

/-- The result of an operation on values, or its error as a signal. -/
def ofOperation : Except EvalError Result → Eval State Result
  | .ok result => pure result
  | .error error => signal (.failed error)

/-- Goes on after an error, with the error in place of the result. -/
def attempt (computation : Eval State Result) : Eval State (Except EvalError Result) :=
  fun machine =>
    match computation machine with
    | (.ok result, after) => (.ok (.ok result), after)
    | (.error (.failed error), after) => (.ok (.error error), after)
    | (.error cause, after) => (.error cause, after)

/-- Takes the value of a return as the result. -/
def catchReturn (computation : Eval State Value) : Eval State Value := fun machine =>
  match computation machine with
  | (.error (.returned value), after) => (.ok value, after)
  | other => other

/-- The value of a name. -/
def find (scope : ScopeId) (name : String) : Eval State Value := fun machine =>
  match machine.store.find? name scope with
  | some value => (.ok value, machine)
  | none => (.error (.failed (.unknownIdentifier name)), machine)

/-- Binds a name in a scope. -/
def define (scope : ScopeId) (name : String) (value : Value) : Eval State Unit :=
  fun ⟨store, trace⟩ => (.ok (), ⟨store.define scope name value, trace⟩)

/-- Opens a scope. -/
def enter (outer : ScopeId) : Eval State ScopeId := fun ⟨store, trace⟩ =>
  let (scope, store) := store.enter (some outer)
  (.ok scope, ⟨store, trace⟩)

/-- What a sink is told about the end of a computation, if anything. -/
def report? : Except Signal Value → Option NodeResult
  | .ok value => some (.value value)
  | .error (.returned value) => some (.returned value)
  | .error (.failed error) => some (.failed error)
  | .error .exhausted => none

/-- Tells the sink what a node came to, if the sink wants to know. -/
def observe (sink : Sink State) (kind : NodeKind) (computation : Eval State Value) :
    Eval State Value := fun machine =>
  match computation machine with
  | (outcome, ⟨store, trace⟩) =>
    match report? outcome with
    | none => (outcome, ⟨store, trace⟩)
    | some report =>
      if sink.enabled trace then
        (outcome, ⟨store, sink.record (.node kind report) trace⟩)
      else
        (outcome, ⟨store, trace⟩)

end Eval

end Ember
