import Ember.Text.Range
import Ember.Text.Blank
import Ember.Text.Alphanumeric
import Ember.Text.Numeral
import Ember.Text.Pattern.Basic
import Ember.Text.Pattern.Class
import Ember.Text.Pattern.Group
import Ember.Text.Pattern.Reading
import Ember.Text.Extender
import Ember.Text.Joined
import Ember.Text.Printable
import Ember.Text.Quoted
import Ember.Text.Sorted
import Ember.Text.Cluster
import Ember.Text.Size
import Ember.Text.Erasure
import Ember.Integer
import Ember.Bindings
import Ember.Token.Basic
import Ember.Token.Lexer
import Ember.Syntax.Basic
import Ember.Syntax.Equality
import Ember.Syntax.Printer
import Ember.Syntax.Precedence
import Ember.Syntax.Error
import Ember.Syntax.Parser
import Ember.Syntax.Program
import Ember.Value.Basic
import Ember.Value.Identity
import Ember.Value.Equality
import Ember.Value.Printer
import Ember.Value.Builtin
import Ember.Value.Error
import Ember.Value.Operation
import Ember.Store
import Ember.Trace
import Ember.Evaluation.Basic
import Ember.Evaluation.Step
import Ember.Evaluation.Program
import Ember.Diagnostic
import Ember.Session
import Ember.Token.Description
import Ember.Log.Level
import Ember.Log.Condition
import Ember.Log.Directive
import Ember.Log.Filter
import Ember.Log.Record
import Ember.Command.Arguments
import Ember.Command.Run
import Ember.Main
import Ember.Proofs.Parser.Equations
import Ember.Proofs.Parser.Congruence
import Ember.Proofs.Parser.Recursion
import Ember.Proofs.Parser.Walk
import Ember.Proofs.Parser.Lookahead
import Ember.Proofs.Parser.Run
import Ember.Proofs.Parser.Clause
import Ember.Proofs.Parser.Recovery
import Ember.Proofs.Grammar.Basic
import Ember.Proofs.Grammar.Soundness
import Ember.Proofs.Grammar.Completeness
import Ember.Proofs.Grammar.Acceptance
import Ember.Proofs.Parser.Levels
import Ember.Proofs.Token.Lexing
import Ember.Proofs.Syntax.Tree
import Ember.Proofs.Syntax.Spelling
import Ember.Proofs.Syntax.Faithful
import Ember.Proofs.Syntax.Rejection
import Ember.Proofs.Syntax.RoundTrip
import Ember.Proofs.Evaluation.Effect
import Ember.Proofs.Evaluation.Frame
import Ember.Proofs.Token.Tiling
import Ember.Proofs.Token.Composition
import Ember.Proofs.Syntax.Reading
import Ember.Proofs.Session.Basic
import Ember.Proofs.Syntax.Formula
import Ember.Proofs.Evaluation.Formula
import Ember.Proofs.Value.Shape
import Ember.Proofs.Value.Likeness
import Ember.Proofs.Evaluation.Correspondence
import Ember.Proofs.Evaluation.View
import Ember.Proofs.Syntax.Sequence
import Ember.Proofs.Session.World
import Ember.Proofs.Session.Pieces
import Ember.Proofs.Parser.Legal
import Ember.Proofs.Value.Printed
import Ember.Proofs.Evaluation.Echo
import Ember.Proofs.Session.Readback
import Ember.Proofs.Evaluation.Congruence
import Ember.Proofs.Evaluation.History
import Ember.Proofs.Session.Tracing
import Ember.Proofs.Evaluation.Signals
import Ember.Proofs.Grammar.Viability
import Ember.Proofs.Grammar.Earliest
import Ember.Proofs.Session.Diagnostics
import Ember.Proofs.Parser.Reports
import Ember.Proofs.Parser.Termination
import Ember.Proofs.Token.Layout
import Ember.Proofs.Token.Shift
import Ember.Proofs.Parser.Kinds
import Ember.Proofs.Session.Layout
import Ember.Proofs.Value.Captures
import Ember.Proofs.Evaluation.Locality
import Ember.Proofs.Evaluation.Lexical
import Ember.Proofs.Scope.Chain
import Ember.Proofs.Scope.Host
import Ember.Proofs.Syntax.Unambiguous
import Ember.Proofs.Value.Entries
import Ember.Proofs.Value.Equivalence
import Ember.Proofs.Session.Equality
import Ember.Proofs.Evaluation.HashLiteral
import Ember.Proofs.Evaluation.Unused
import Ember.Proofs.Evaluation.Place
import Ember.Proofs.Evaluation.Judgement
import Ember.Proofs.Evaluation.Passage
import Ember.Proofs.Evaluation.Functionless
import Ember.Proofs.Evaluation.Activation
import Ember.Proofs.Session.Chronicle
