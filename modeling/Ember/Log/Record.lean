import Ember.Log.Filter
import Ember.Session
import Ember.Token.Description

/-!
# Log records

What is written to the log about the evaluation of a source: the events of the
trace, how parsing ended, and the error if evaluation failed. A record names the
activities that surround it, as far as the filter lets them show.
-/

namespace Ember

/-- One entry of the log. -/
structure Record where
  level : Level
  target : String
  /-- The activities around the record, the outermost first. -/
  activities : List Activity
  message : String
  /-- What is said beside the message: names and the texts of values. -/
  fields : List (String × String)
  /-- The names of further fields, which are not written. -/
  unwritten : List String
  deriving DecidableEq, Repr

namespace Record

/-- The message and the fields, separated by spaces. -/
def text (record : Record) : String :=
  Text.joined " " (record.message :: record.fields.map fun (name, value) => name ++ "=" ++ value)

/-- The names of all fields. The message is one of them. -/
def fieldNames (record : Record) : List String :=
  "message" :: record.fields.map Prod.fst ++ record.unwritten

/-- The line for a record, if the filter lets it pass where it is made. -/
def line? (filter : Filter) (record : Record) : Option String :=
  let surroundings := filter.surroundings record.activities
  if filter.enables record.target record.level record.fieldNames ||
      surroundings.allow record.level then
    let shown := surroundings.shown.map Activity.text
    let course := if shown.isEmpty then "" else Text.joined ":" shown ++ ": "
    some (record.level.heading ++ " " ++ course ++ record.target ++ ": " ++ record.text)
  else
    none

/-- The target of the records about the events of a trace. -/
def traceTarget : String := "ember::trace"

/-- The evaluation of a source of so many bytes. -/
def evaluating (source : String) : Activity :=
  ⟨"ember_lang_interpreter", "evaluate_with", [("len", source.utf8ByteSize)]⟩

/-- The parsing of a source. -/
def parsing : Activity :=
  ⟨"ember_lang_core::parser", "parse_program", []⟩

/-- The record of an event. -/
def ofEvent (source : String) : Event → Record
  | .parse (.consumed token) =>
    ⟨.trace, traceTarget, [evaluating source, parsing], "token produced",
      [("line", toString token.line), ("kind", token.kind.describe)], []⟩
  | .parse (.parsed statement) =>
    ⟨.trace, traceTarget, [evaluating source, parsing], "statement parsed",
      [("statement", statement.render)], []⟩
  | .node kind result =>
    ⟨.trace, traceTarget, [evaluating source], "node evaluated",
      [("kind", Text.quoted kind.name), ("result", Text.quoted result.render)], []⟩

/-- The record of how parsing ended. -/
def ofParsing (source : String) (outcome : Parsing) : Record :=
  ⟨.debug, parsing.target, [evaluating source, parsing], "parsed program",
    [("statements", toString outcome.statements.length),
      ("errors", toString outcome.errors.length)], []⟩

/-- The record of an error of evaluation, if there was one. -/
def ofOutcome (source : String) : Outcome → List Record
  | .faulty [.evaluation error] =>
    [⟨.debug, (evaluating source).target, [evaluating source], "evaluation failed",
      [("error", error.message)], []⟩]
  | _ => []

/-- Whether an event comes from the parser. -/
def isParseEvent : Event → Bool
  | .parse _ => true
  | .node _ _ => false

/-- All records about the evaluation of a source. -/
def ofEvaluation (source : String) (evaluation : Evaluation (Array Event)) : List Record :=
  let (parseEvents, nodeEvents) := evaluation.trace.toList.partition isParseEvent
  parseEvents.map (ofEvent source) ++ [ofParsing source evaluation.parsing] ++
    nodeEvents.map (ofEvent source) ++ ofOutcome source evaluation.outcome

end Record

end Ember
