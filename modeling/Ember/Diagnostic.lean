import Ember.Syntax.Error
import Ember.Value.Error

/-!
# Diagnostics

What a user is told about a source that has no value, whichever phase found the
fault. Trees keep no positions, so that only faults of the syntax have a line.
-/

namespace Ember

/-- The phase that found a fault. -/
inductive DiagnosticKind where
  | lex
  | parse
  | eval
  deriving DecidableEq, Repr

namespace DiagnosticKind

/-- The name of a phase. -/
def name : DiagnosticKind → String
  | .lex => "lex"
  | .parse => "parse"
  | .eval => "eval"

end DiagnosticKind

/-- A fault of any phase. -/
inductive Diagnostic where
  | syntactic (error : SyntaxError)
  | evaluation (error : EvalError)
  deriving DecidableEq, Repr

namespace Diagnostic

/-- The phase that found a fault. -/
def kind : Diagnostic → DiagnosticKind
  | .syntactic error => if error.isLexical then .lex else .parse
  | .evaluation _ => .eval

/-- The line of a fault, if it has one. -/
def line? : Diagnostic → Option Nat
  | .syntactic error => some error.line
  | .evaluation _ => none

/-- What is wrong. -/
def message : Diagnostic → String
  | .syntactic error => error.message
  | .evaluation error => error.message

/-- The phase and what is wrong. -/
def render (diagnostic : Diagnostic) : String :=
  diagnostic.kind.name ++ " error: " ++ diagnostic.message

end Diagnostic

end Ember
