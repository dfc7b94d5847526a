import Toolmark.CommandLine.Arguments
import Toolmark.Config.File
import Toolmark.Report
import Toolmark.Runner
import Toolmark.Sink

/-!
# The command line

What the program does with its options. All faults of the request are found before a tool is run, in
a fixed order: the path is missing, the form of the report is unknown, the binary does not exist, the
configuration cannot be read, the configuration has a fault. The verdict never changes the exit code.
-/

namespace Toolmark

/-- What the program can learn about files. -/
structure Files where
  /-- There is a file or a directory at a path. -/
  exists? : String → Bool
  /-- The bytes of a file, or the reason why it cannot be read. -/
  read : String → Except String (List UInt8)

/-- A fault of a request. -/
inductive RequestError where
  /-- No binary is named. -/
  | noPath
  /-- The form of the report is unknown. -/
  | unknownFormat (format : String)
  /-- The binary does not exist. -/
  | noBinary (path : String)
  /-- The file gives no configuration. -/
  | unreadableConfig (path : String) (error : FileError)
  /-- The configuration has a fault. -/
  | faultyConfig (error : ConfigError)
deriving DecidableEq, Repr

namespace RequestError

/-- The event that reports a fault; a missing path is answered by the usage instead. -/
def event? (reasons : Reasons) (error : RequestError) : Option Event :=
  let report (message name value : String) : Option Event :=
    some
      { level := .error
        origin := .commandLine
        message := message
        fields := [(name, value)] }
  match error with
  | noPath => none
  | unknownFormat format => report "invalid format, must be 'pretty' or 'json'" "format" format
  | noBinary path => report "Binary file does not exist" "path" path
  | unreadableConfig path error =>
      report "invalid fingerprint configuration" "error"
        ("reading " ++ path ++ ": " ++ error.message reasons)
  | faultyConfig error =>
      report "invalid fingerprint configuration" "error" (error.message reasons)

end RequestError

/-- A request without faults. -/
structure Request where
  /-- The binary to inspect. -/
  path : String
  /-- The form of the report. -/
  format : Format
  /-- The detectors with their fingerprints. -/
  detectors : List Detector
  /-- The seconds that all tools share. -/
  timeoutSecs : Nat
  /-- The tools run one after the other. -/
  sequential : Bool
deriving Repr

namespace Request

/-- The configuration in the file that the options name, or the one that changes nothing. -/
def config (files : Files) : Option String → Except RequestError Config
  | none => .ok Config.default
  | some path =>
      match Config.ofFile (files.read path) with
      | .ok config => .ok config
      | .error error => .error (.unreadableConfig path error)

/-- The request that options make, or its first fault. -/
def ofOptions (files : Files) (options : Options) : Except RequestError Request :=
  match options.binaryPath with
  | none => .error .noPath
  | some path =>
      match Format.ofName? options.format with
      | none => .error (.unknownFormat options.format)
      | some format =>
          if !files.exists? path then .error (.noBinary path)
          else do
            let config ← config files options.fingerprints
            match config.apply Detector.allBuiltIn with
            | .error error => .error (.faultyConfig error)
            | .ok detectors =>
                .ok
                  { path := path
                    format := format
                    detectors := detectors
                    timeoutSecs :=
                      (options.timeoutSecs.orElse fun _ => config.timeoutSecs).getD
                        Runner.defaultTimeoutSecs
                    sequential := options.sequential }

/-- The runner for a request. -/
def runner (request : Request) : Runner where
  detectors := request.detectors
  timeoutSecs := request.timeoutSecs
  sequential := request.sequential

end Request

/-- How the work on a request ended. -/
inductive Ending where
  /-- With an exit code. -/
  | exit (code : Nat)
  /-- The output did not fit. -/
  | sinkFull
  /-- The run could not begin. -/
  | notRun (error : RunError)
deriving DecidableEq, Repr

/-- What came of a request. -/
structure Outcome where
  /-- How the work ended. -/
  ending : Ending
  /-- The output. -/
  output : Sink
  /-- The events. -/
  log : List Event
  /-- The command lines run. -/
  calls : List Invocation
deriving Repr

namespace CommandLine

/-- The exit code after a report. -/
def exitSuccess : Nat := 0

/-- The exit code after a fault. -/
def exitError : Nat := 1

/-- The text shown when no binary is named. -/
def usage : String := "Usage: rust-detector <binary_path>"

/-- The text of a failure of the output. -/
def sinkFullMessage : String := "sink full"

/-- The outcome of writing, with an ending for the case that nothing is refused. -/
def write (sink : Sink) (writer : Writer Unit) (ending : Ending) (log : List Event)
    (calls : List Invocation) : Outcome :=
  match writer.run sink with
  | .ok _ output => ⟨ending, output, log, calls⟩
  | .error .sinkFull output => ⟨.sinkFull, output, log, calls⟩

/-- The outcome of a request with a fault. -/
def refuse (reasons : Reasons) (sink : Sink) (error : RequestError) : Outcome :=
  match error.event? reasons with
  | none => write sink (.putAll [usage, "\n"]) (.exit exitError) [] []
  | some event => ⟨.exit exitError, sink, [event], []⟩

/-- The outcome of a request without faults. -/
def perform (request : Request) (tools : Tools) (start : Instant) (color : Bool) (sink : Sink) :
    Outcome :=
  match request.runner.run tools request.path start with
  | .error error => ⟨.notRun error, sink, [], []⟩
  | .ok run =>
      let verdict := Verdict.ofEvidence run.evidence
      let report := Report.write request.format color request.path run.evidence verdict
      write sink report (.exit exitSuccess) run.log run.calls

/-- The outcome of options. -/
def run (reasons : Reasons) (options : Options) (files : Files) (tools : Tools) (start : Instant)
    (color : Bool) (sink : Sink) : Outcome :=
  match Request.ofOptions files options with
  | .error error => refuse reasons sink error
  | .ok request => perform request tools start color sink

end CommandLine

end Toolmark
