import Ember.Log.Level

/-!
# Command line

The arguments of the command: a source or the path of a file, and options for
the log. Arguments are read from left to right, and the first mistake or the
first question for help or for the version ends the reading. That a source and a
path exclude each other is a mistake of the whole command line and comes last.
-/

namespace Ember

/-- The options of the command. -/
inductive CommandOption where
  | eval
  | trace
  | logLevel
  | help
  | version
  deriving DecidableEq, Repr

namespace CommandOption

/-- All options. -/
def all : List CommandOption :=
  [.eval, .trace, .logLevel, .help, .version]

/-- The name of an option, which stands after two dashes. -/
def name : CommandOption → String
  | .eval => "eval"
  | .trace => "trace"
  | .logLevel => "log-level"
  | .help => "help"
  | .version => "version"

/-- The letter of an option, which stands after one dash. -/
def letter? : CommandOption → Option Char
  | .eval => some 'e'
  | .help => some 'h'
  | .version => some 'V'
  | .trace | .logLevel => none

/-- Whether a value belongs to an option. -/
def takesValue : CommandOption → Bool
  | .eval | .logLevel => true
  | .trace | .help | .version => false

end CommandOption

/-- What is wrong with a command line. -/
inductive UsageError where
  | unexpectedArgument (argument : String)
  | missingValue (option : CommandOption)
  | unneededValue (option : CommandOption)
  | repeatedOption (option : CommandOption)
  | unknownLevel (name : String)
  | emptyPath
  | sourceAndPath
  deriving DecidableEq, Repr

namespace UsageError

/-- The wording of a mistake. -/
def message : UsageError → String
  | .unexpectedArgument argument => "unexpected argument '" ++ argument ++ "'"
  | .missingValue option => "a value is required for '--" ++ option.name ++ "'"
  | .unneededValue option => "'--" ++ option.name ++ "' takes no value"
  | .repeatedOption option => "'--" ++ option.name ++ "' is given more than once"
  | .unknownLevel name => "unknown log level '" ++ name ++ "'"
  | .emptyPath => "the path is empty"
  | .sourceAndPath => "'--eval' cannot be used with a path"

end UsageError

/-- What an argument is by its form alone. -/
inductive ArgumentForm where
  | plain (text : String)
  /-- An option, with the value that is written together with it. -/
  | option (option : CommandOption) (attached : Option String)
  /-- Two dashes: all that follows is plain. -/
  | separator
  | unknown (text : String)
  deriving DecidableEq, Repr

namespace ArgumentForm

/-- An option by its name, with a value after a sign of equality. -/
def ofName (argument : String) (text : List Char) : ArgumentForm :=
  let name := String.ofList (text.takeWhile (· != '='))
  let attached := match text.dropWhile (· != '=') with
    | [] => none
    | _ :: value => some (String.ofList value)
  match CommandOption.all.find? fun option => option.name == name with
  | some found => .option found attached
  | none => .unknown argument

/-- An option by its letter. If it takes a value, that may follow at once, with
or without a sign of equality. -/
def ofLetter (argument : String) (letter : Char) (text : List Char) : ArgumentForm :=
  match CommandOption.all.find? fun option => option.letter? == some letter with
  | none => .unknown argument
  | some found =>
    if found.takesValue then
      match text with
      | [] => .option found none
      | '=' :: value => .option found (some (String.ofList value))
      | value => .option found (some (String.ofList value))
    else
      .option found none

/-- The form of an argument. A dash alone is plain. -/
def of (argument : String) : ArgumentForm :=
  match argument.toList with
  | ['-', '-'] => .separator
  | '-' :: '-' :: text => ofName argument text
  | '-' :: letter :: text => ofLetter argument letter text
  | _ => .plain argument

end ArgumentForm

/-- What the options say, as far as they are read. -/
structure Draft where
  source : Option String
  path : Option String
  trace : Bool
  level : Option Level
  deriving DecidableEq, Repr

/-- Where the program to run comes from. -/
inductive Origin where
  | inline (source : String)
  | file (path : String)
  /-- The lines of the standard input. -/
  | input
  deriving DecidableEq, Repr

/-- What a command line asks for. -/
inductive Command where
  | help
  | version
  | run (origin : Origin) (level : Level) (trace : Bool)
  deriving DecidableEq, Repr

namespace Draft

/-- Nothing said yet. -/
def empty : Draft := ⟨none, none, false, none⟩

/-- Takes note of a plain argument. -/
def addPath (draft : Draft) (path : String) : Except UsageError Draft :=
  if path.isEmpty then .error .emptyPath
  else if draft.path.isSome then .error (.unexpectedArgument path)
  else .ok { draft with path := some path }

/-- Takes note of the source. -/
def addSource (draft : Draft) (source : String) : Except UsageError Draft :=
  if draft.source.isSome then .error (.repeatedOption .eval)
  else .ok { draft with source := some source }

/-- Takes note of the log level. -/
def addLevel (draft : Draft) (name : String) : Except UsageError Draft :=
  match Level.ofName? name with
  | none => .error (.unknownLevel name)
  | some level =>
    if draft.level.isSome then .error (.repeatedOption .logLevel)
    else .ok { draft with level := some level }

/-- Takes note of the full trace. -/
def addTrace (draft : Draft) : Except UsageError Draft :=
  if draft.trace then .error (.repeatedOption .trace)
  else .ok { draft with trace := true }

/-- Takes note of the value of an option that takes one. -/
def addValue (draft : Draft) (option : CommandOption) (value : String) :
    Except UsageError Draft :=
  match option with
  | .eval => draft.addSource value
  | .logLevel => draft.addLevel value
  | .trace | .help | .version => .error (.unneededValue option)

/-- The command, once all arguments are read. -/
def finish (draft : Draft) : Except UsageError Command :=
  let run (origin : Origin) := Command.run origin (draft.level.getD .warn) draft.trace
  match draft.source, draft.path with
  | some _, some _ => .error .sourceAndPath
  | some source, none => .ok (run (.inline source))
  | none, some path => .ok (run (.file path))
  | none, none => .ok (run .input)

/-- Reads arguments that are all plain. -/
def readPlain (draft : Draft) : List String → Except UsageError Command
  | [] => draft.finish
  | argument :: rest => do
    let draft ← draft.addPath argument
    draft.readPlain rest

/-- Reads arguments from left to right. -/
def read (draft : Draft) : List String → Except UsageError Command
  | [] => draft.finish
  | argument :: rest =>
    match ArgumentForm.of argument with
    | .separator => draft.readPlain rest
    | .unknown text => .error (.unexpectedArgument text)
    | .plain path => do
      let draft ← draft.addPath path
      draft.read rest
    | .option .help none => .ok .help
    | .option .version none => .ok .version
    | .option .trace none => do
      let draft ← draft.addTrace
      draft.read rest
    | .option option (some value) => do
      let draft ← draft.addValue option value
      draft.read rest
    | .option option none =>
      match rest with
      | [] => .error (.missingValue option)
      | value :: rest =>
        match ArgumentForm.of value with
        | .plain value => do
          let draft ← draft.addValue option value
          draft.read rest
        | _ => .error (.missingValue option)

end Draft

/-- The command that some arguments ask for. -/
def Command.ofArguments (arguments : List String) : Except UsageError Command :=
  Draft.empty.read arguments

end Ember
