import Toolmark.Host
import Toolmark.Log.Filter

/-!
# The program

What the program prints, logs and answers when it is started on a host. Its output is no terminal,
so it is coloured only if the user asks for that.
-/

namespace Toolmark

namespace Program

/-- What a start of the program gave. -/
structure Result where
  /-- The exit code. -/
  code : Nat
  /-- What was written to the output. -/
  output : String
  /-- The lines of the log. -/
  log : List String
deriving DecidableEq, Repr

/-- The value of a variable of a host. -/
def setting (host : Host) (name : String) : Option String :=
  (host.environment.find? fun entry => entry.1 == name).map (·.2)

/-- The user asks for colour. -/
def isColored (host : Host) : Bool :=
  match setting host "CLICOLOR_FORCE" with
  | some value => value ≠ "0"
  | none => false

/-- The first line of the text of an event. -/
def logLine (event : Event) : String :=
  String.ofList (event.line.toList.takeWhile (· ≠ '\n'))

/-- The lines of the log that the user wants to see. -/
def logLines (host : Host) (events : List Event) : List String :=
  let filter := Filter.ofSetting (setting host "RUST_LOG")
  (events.filter filter.passes).map logLine

/-- The exit code after a failure to begin a run. -/
def exitFault : Nat := 101

/-- The exit code of an ending. -/
def exitCode : Ending → Nat
  | .exit code => code
  | .sinkFull => CommandLine.exitError
  | .notRun _ => exitFault

/-- The program started on a host at an instant. -/
def start (reasons : Reasons) (host : Host) (arguments : List String) (now : Instant) : Result :=
  match Options.ofArguments arguments with
  | .error error => ⟨error.exitCode, error.answer?.getD "", []⟩
  | .ok options =>
      let outcome := CommandLine.run reasons options host.files host.tools now (isColored host)
        (Sink.empty none)
      ⟨exitCode outcome.ending, outcome.output.taken, logLines host outcome.log⟩

end Program

end Toolmark
