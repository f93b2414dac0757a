import Ember.Command.Arguments
import Ember.Log.Record
import Ember.Text.Erasure

/-!
# Running commands

What the command prints and how it ends. A source or a file is evaluated on its
own: the value goes to the standard output, the faults and the log to the
standard error. Lines of input are evaluated one after the other in one scope,
with values and faults alike on the standard output.
-/

namespace Ember

/-- The lines that go to the standard output and to the standard error. -/
structure Printed where
  output : List String
  errors : List String
  deriving DecidableEq, Repr

namespace Printed

/-- Nothing. -/
def nothing : Printed := ⟨[], []⟩

/-- What is printed first and what is printed then. -/
def append (first second : Printed) : Printed :=
  ⟨first.output ++ second.output, first.errors ++ second.errors⟩

instance : Append Printed := ⟨append⟩

end Printed

/-- Everything a command leaves behind. -/
structure Report where
  exitCode : Nat
  printed : Printed
  deriving DecidableEq, Repr

/-- How the log is kept. -/
structure LogSettings where
  filter : Filter
  /-- Whether the events of the trace are logged where the filter lets them. -/
  trace : Bool
  /-- What is said about parts of the configuration that make no sense. -/
  complaints : List String
  deriving DecidableEq, Repr

namespace LogSettings

/-- The settings for a level, the configured directives and a full trace. -/
def configure (level : Level) (configured : String) (trace : Bool) : LogSettings :=
  let (filter, complaints) := Filter.configure level configured trace
  ⟨filter, trace, complaints⟩

/-- The lines for some records. -/
def lines (settings : LogSettings) (records : List Record) : List String :=
  records.filterMap (Record.line? settings.filter)

/-- Keeps the events of a source that may be logged. It wants to hear of nodes only
if the filter may let them pass. -/
def sink (settings : LogSettings) (source : String) : Sink (Array Event) :=
  let awaited := settings.trace &&
    settings.filter.awaits Record.traceTarget .trace [Record.evaluating source]
  { record := fun event events => if settings.trace then events.push event else events
    enabled := fun _ => awaited }

end LogSettings

/-- Said of an evaluation that was given up. -/
def givenUp : String := "evaluation is nested too deeply"

/-- What is said about an outcome: the value, or all faults. -/
def Outcome.lines : Outcome → List String
  | .value result => [result.render]
  | .faulty diagnostics => diagnostics.map Diagnostic.render
  | .exhausted => [givenUp]

/-- Whether an outcome is a value. -/
def Outcome.isValue : Outcome → Bool
  | .value _ => true
  | _ => false

/-- Evaluates a source in a scope, and gives the lines of its log. -/
def evaluateLogged (settings : LogSettings) (source : String) (scope : ScopeId) (world : World) :
    Outcome × World × List String :=
  let evaluation := evaluateWith (settings.sink source) ampleDepth source scope world #[]
  (evaluation.outcome, evaluation.world,
    settings.lines (Record.ofEvaluation source evaluation))

/-- Runs a source in a scope of its own. -/
def runSource (settings : LogSettings) (source : String) : Report :=
  let (scope, world) := World.empty.enter none
  let (outcome, _, log) := evaluateLogged settings source scope world
  if outcome.isValue then
    ⟨0, ⟨outcome.lines, log⟩⟩
  else
    ⟨1, ⟨[], log ++ outcome.lines⟩⟩

/-- Why a file cannot be read. -/
inductive ReadFailure where
  | notFound
  /-- A part of the path in front of the last one is no directory. -/
  | notADirectory
  | isDirectory
  /-- The bytes of the file are not the encoding of a text. -/
  | notText
  | other (reason : String)
  deriving DecidableEq, Repr

namespace ReadFailure

/-- The wording of a failure. -/
def reason : ReadFailure → String
  | .notFound => "No such file or directory (os error 2)"
  | .notADirectory => "Not a directory (os error 20)"
  | .isDirectory => "Is a directory (os error 21)"
  | .notText => "stream did not contain valid UTF-8"
  | .other reason => reason

end ReadFailure

/-- Ends the command because it cannot do its work. -/
def giveUp (settings : LogSettings) (reason : String) : Report :=
  let log := settings.lines [⟨.error, "ember", [], "runner failed", [("error", reason)], []⟩]
  ⟨1, ⟨[], log ++ ["ember: " ++ reason]⟩⟩

/-- Runs what was read from a file. -/
def runFile (settings : LogSettings) (path : String) (content : Except ReadFailure String) :
    Report :=
  match content with
  | .error failure => giveUp settings ("cannot read " ++ path ++ ": " ++ failure.reason)
  | .ok source =>
    let opening : Record := ⟨.debug, "ember::runner", [], "running file",
      [("path", path), ("bytes", toString source.utf8ByteSize)], []⟩
    let report := runSource settings source
    { report with printed := ⟨[], settings.lines [opening]⟩ ++ report.printed }

/-- What passes from one line of input to the next. -/
structure Conversation where
  scope : ScopeId
  world : World
  deriving DecidableEq, Repr

namespace Conversation

/-- A new scope, before the first line. -/
def start : Conversation :=
  let (scope, world) := World.empty.enter none
  ⟨scope, world⟩

/-- What is logged before the first line is read. -/
def opening (settings : LogSettings) : Printed :=
  ⟨[], settings.lines [⟨.debug, "ember::repl", [], "starting repl", [], []⟩]⟩

/-- What is logged whenever a line is about to be read. The place where it is said
belongs to it, but is not written. -/
def reading (settings : LogSettings) : Printed :=
  ⟨[], settings.lines [⟨.debug, "rustyline", [], "stdin is not a tty", [],
    ["log.target", "log.module_path", "log.file", "log.line"]⟩]⟩

/-- Evaluates a line of input. A blank line is passed over. -/
def next (settings : LogSettings) (conversation : Conversation) (line : String) :
    Printed × Conversation :=
  if Text.isBlankText line then
    (.nothing, conversation)
  else
    let (outcome, world, log) :=
      evaluateLogged settings line conversation.scope conversation.world
    (⟨outcome.lines, log⟩, { conversation with world })

/-- What is printed when the input ends. -/
def farewell : Printed := ⟨["CTRL-D"], []⟩

/-- Evaluates lines of input up to the last one. -/
def all (settings : LogSettings) (conversation : Conversation) : List String → Printed
  | [] => reading settings ++ farewell
  | line :: rest =>
    let (printed, after) := next settings conversation line
    reading settings ++ printed ++ all settings after rest

end Conversation

/-- A line as it was read, without the line end. -/
def withoutLineEnd (line : String) : String :=
  match line.toList.reverse with
  | '\n' :: '\r' :: rest => String.ofList rest.reverse
  | '\n' :: rest => String.ofList rest.reverse
  | _ => line

/-- What a line that was read says: it is taken without its line end, and the
backspaces in it have done their work. -/
def lineText (line : String) : String :=
  Text.withErasures (withoutLineEnd line)

/-- Evaluates lines of input, as they were read. -/
def runLines (settings : LogSettings) (lines : List String) : Report :=
  ⟨0, Conversation.opening settings ++
    Conversation.all settings .start (lines.map lineText)⟩

/-- The name and the number of the program. -/
def versionText : String := "ember-lang-runner 0.1.0"

/-- How the command is used. -/
def helpText : List String :=
  ["Usage: ember [OPTIONS] [PATH]",
    "",
    "Arguments:",
    "  [PATH]  Source file to run. Without a path or `--eval` the REPL is started",
    "",
    "Options:",
    "  -e, --eval <SOURCE>      Evaluate SOURCE instead of reading a file",
    "      --trace              Log every token, statement and evaluated node",
    "      --log-level <LEVEL>  Log level used when RUST_LOG is not set [default: warn] " ++
      "[possible values: error, warn, info, debug, trace]",
    "  -h, --help               Print help",
    "  -V, --version            Print version"]

/-- What is printed about a mistake on the command line. -/
def UsageError.report (mistake : UsageError) : Report :=
  ⟨2, ⟨[], ["error: " ++ mistake.message, "", "Usage: ember [OPTIONS] [PATH]", "",
    "For more information, try '--help'."]⟩⟩

/-- Puts what is said about the configuration of the log in front. -/
def Report.withComplaints (settings : LogSettings) (report : Report) : Report :=
  { report with printed := ⟨[], settings.complaints⟩ ++ report.printed }

/-- Runs a command, with the means to read a file and the lines of the input at
hand, and with the directives that are configured for the log. -/
def Command.execute (command : Command) (configured : String)
    (readFile : String → Except ReadFailure String) (inputLines : List String) : Report :=
  match command with
  | .help => ⟨0, ⟨helpText, []⟩⟩
  | .version => ⟨0, ⟨[versionText], []⟩⟩
  | .run origin level trace =>
    let settings := LogSettings.configure level configured trace
    let report := match origin with
      | .inline source => runSource settings source
      | .file path => runFile settings path (readFile path)
      | .input => runLines settings inputLines
    report.withComplaints settings

end Ember
