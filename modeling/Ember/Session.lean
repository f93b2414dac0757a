import Ember.Diagnostic
import Ember.Evaluation.Program

/-!
# Sessions

A session evaluates one source after the other. The world is what passes from
one to the next: the scopes, and how many programs have been parsed, so that
every program gets a number of its own and its function literals differ from
those of every other program.

Nothing is evaluated when a source has a syntax error.
-/

namespace Ember

/-- What outlives the evaluation of a source. -/
structure World where
  store : Store
  /-- The number for the next program. -/
  programs : Nat
  deriving DecidableEq, Repr

namespace World

/-- No scopes and no programs. -/
def empty : World := ⟨.empty, 0⟩

/-- Opens a scope. -/
def enter (world : World) (outer : Option ScopeId) : ScopeId × World :=
  let (scope, store) := world.store.enter outer
  (scope, { world with store })

/-- Binds a name in a scope. -/
def define (world : World) (scope : ScopeId) (name : String) (value : Value) : World :=
  { world with store := world.store.define scope name value }

end World

/-- A program with the number by which its nodes are told from those of other
programs. -/
structure NumberedProgram where
  number : Nat
  statements : Program
  deriving DecidableEq, Repr

/-- Gives a program the next number. -/
def World.number (world : World) (program : Program) : NumberedProgram × World :=
  (⟨world.programs, program⟩, { world with programs := world.programs + 1 })

/-- Runs a program in a scope of the world. -/
def NumberedProgram.run {State : Type} (program : NumberedProgram) (sink : Sink State)
    (depth : Nat) (scope : ScopeId) (world : World) (trace : State) :
    Completion × World × State :=
  let context : Context := ⟨scope, .root program.number⟩
  let (completion, machine) :=
    evalProgram sink depth context program.statements ⟨world.store, trace⟩
  (completion, { world with store := machine.store }, machine.trace)

/-- What a source comes to. -/
inductive Outcome where
  | value (value : Value)
  /-- All faults, in order; never none. -/
  | faulty (diagnostics : List Diagnostic)
  /-- The bound on the nesting of evaluations was reached. -/
  | exhausted
  deriving DecidableEq, Repr

/-- The evaluation of a source: what the parser made of it, what it came to, and
what it left behind. -/
structure Evaluation (State : Type) where
  parsing : Parsing
  outcome : Outcome
  world : World
  trace : State

/-- Parses a source and evaluates it in a scope of the world. -/
def evaluateWith {State : Type} (sink : Sink State) (depth : Nat) (source : String)
    (scope : ScopeId) (world : World) (trace : State) : Evaluation State :=
  let parsing := Parsing.ofSource source
  let parsed := sink.recordAll parsing.events trace
  match parsing.result with
  | .error errors => ⟨parsing, .faulty (errors.map .syntactic), world, parsed⟩
  | .ok statements =>
    let (program, numbered) := world.number statements
    let (completion, world, trace) := program.run sink depth scope numbered parsed
    let outcome := match completion with
      | .value value => .value value
      | .failed error => .faulty [.evaluation error]
      | .exhausted => .exhausted
    ⟨parsing, outcome, world, trace⟩

/-- Parses a source and evaluates it in a scope of its own, without a trace. -/
def evaluate (depth : Nat) (source : String) (world : World) : Evaluation Unit :=
  let (scope, world) := world.enter none
  evaluateWith .silent depth source scope world ()

/-- A bound on the nesting of evaluations that is out of the way. -/
def ampleDepth : Nat := 1000000

end Ember
