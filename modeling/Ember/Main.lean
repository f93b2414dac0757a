import Ember.Command.Run

/-!
# The program

Reads the arguments, the file or the lines of input, and prints what running the
command gives. Lines of input are answered one by one.
-/

namespace Ember.Main

/-- Prints lines to the standard output and to the standard error. -/
def print (printed : Printed) : IO Unit := do
  for line in printed.errors do
    IO.eprintln line
  for line in printed.output do
    IO.println line

/-- Reads a text file. -/
def readText (path : String) : IO (Except ReadFailure String) := do
  try
    let bytes ← IO.FS.readBinFile path
    match String.fromUTF8? bytes with
    | some text => return .ok text
    | none => return .error .notText
  catch
    | .noFileOrDirectory .. => return .error .notFound
    | .inappropriateType _ code _ =>
      return .error (if code = 20 then .notADirectory else .isDirectory)
    | .permissionDenied _ code details | .invalidArgument _ code details =>
      return .error (.other (details ++ " (os error " ++ toString code ++ ")"))
    | failure => return .error (.other (toString failure))

/-- Answers lines of input until they end. -/
partial def converse (settings : LogSettings) (conversation : Conversation) : IO Unit := do
  print (Conversation.reading settings)
  let line ← (← IO.getStdin).getLine
  if line.isEmpty then
    print Conversation.farewell
  else
    let (printed, after) := conversation.next settings (lineText line)
    print printed
    converse settings after

/-- Prints a report and gives its exit code. -/
def finish (report : Report) : IO UInt32 := do
  print report.printed
  return report.exitCode.toUInt32

/-- Runs the command that some arguments ask for. -/
def run (arguments : List String) : IO UInt32 := do
  let configured := (← IO.getEnv "RUST_LOG").getD ""
  match Command.ofArguments arguments with
  | .error mistake => finish mistake.report
  | .ok (.run .input level trace) => do
    let settings := LogSettings.configure level configured trace
    print ⟨[], settings.complaints⟩
    print (Conversation.opening settings)
    converse settings .start
    return 0
  | .ok (.run (.file path) level trace) => do
    let content ← readText path
    finish ((Command.run (.file path) level trace).execute configured (fun _ => content) [])
  | .ok command =>
    finish (command.execute configured (fun _ => .error .notFound) [])

end Ember.Main

/-- The entry point of the program. -/
def main (arguments : List String) : IO UInt32 :=
  Ember.Main.run arguments
