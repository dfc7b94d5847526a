/-!
# Events

What the program tells about its work while it runs. An event carries the part of the program that
it comes from, so that a filter can select events by it.
-/

namespace Toolmark

/-- How much attention an event deserves. -/
inductive Level where
  /-- The run has failed. -/
  | error
  /-- Something may be wrong. -/
  | warn
  /-- A step of interest to the user. -/
  | info
  /-- A detail of the run. -/
  | debug
  /-- A detail of a detail. -/
  | trace
deriving DecidableEq, Repr

namespace Level

/-- The name of a level. -/
def name : Level → String
  | error => "ERROR"
  | warn => "WARN"
  | info => "INFO"
  | debug => "DEBUG"
  | trace => "TRACE"

/-- The verbosity of a level, from one for errors. -/
def rank : Level → Nat
  | error => 1
  | warn => 2
  | info => 3
  | debug => 4
  | trace => 5

end Level

/-- A part of the program that reports events. -/
inductive Origin where
  /-- The command line. -/
  | commandLine
  /-- The execution of tools. -/
  | tool
  /-- A single detector. -/
  | detector
  /-- The run of all detectors. -/
  | runner
deriving DecidableEq, Repr

namespace Origin

/-- The path by which filters name a part of the program. -/
def target : Origin → String
  | commandLine => "rust_detector::cli"
  | tool => "rust_detector::tool"
  | detector => "rust_detector::detect::detector"
  | runner => "rust_detector::detect::runner"

end Origin

/-- Something that the program tells about its work. -/
structure Event where
  /-- How much attention the event deserves. -/
  level : Level
  /-- The part of the program that reports it. -/
  origin : Origin
  /-- What happened. -/
  message : String
  /-- Named details, in the order in which they are shown. -/
  fields : List (String × String)
deriving DecidableEq, Repr

namespace Event

/-- The event as a line of a log. -/
def line (event : Event) : String :=
  event.fields.foldl (fun text field => text ++ " " ++ field.1 ++ "=" ++ field.2)
    (event.level.name ++ " " ++ event.message)

end Event

/-- The text of a truth value in an event. -/
def flagText (flag : Bool) : String := if flag then "true" else "false"

end Toolmark
