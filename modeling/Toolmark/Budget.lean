import Toolmark.Log
import Toolmark.Tool

/-!
# Time budgets

All tools of a run share one deadline. Instants are counted in milliseconds. A tool that is started
at the deadline or later fails at once, and one that would end after it fails at the deadline.
-/

namespace Toolmark

/-- A point in time, in milliseconds. -/
abbrev Instant := Nat

/-- The greatest number of whole seconds of an instant. -/
def clockLimit : Nat := 0x7fffffffffffffff

/-- The instant some seconds after another, if the clock can show it. -/
def deadline? (start : Instant) (seconds : Nat) : Option Instant :=
  if start / 1000 + seconds ≤ clockLimit then some (start + 1000 * seconds) else none

/-- What came of the attempt to run a tool. -/
structure Attempt where
  /-- The output of the tool, or why there is none. -/
  result : ToolResult
  /-- A process was started, or the attempt to start one was made. -/
  spawned : Bool
  /-- The events of the attempt. -/
  log : List Event
  /-- The instant at which the result was known. -/
  finish : Instant

/-- The execution of tools: a command line and a binary, run from an instant to a deadline. -/
structure Tools where
  /-- The attempt to run a tool on a binary. -/
  attempt : Invocation → String → Instant → Instant → Attempt

namespace Tools

/-- Tools with results known beforehand, which take no time. -/
def scripted (result : Invocation → ToolResult) : Tools where
  attempt invocation _ start deadline :=
    { result := if deadline ≤ start then .error (.timeout invocation.program) else result invocation
      spawned := false
      log := []
      finish := start }

end Tools

/-- What a process does when nothing stops it. -/
structure Work where
  /-- The time that it takes, in milliseconds. -/
  duration : Nat
  /-- Its result. -/
  result : ToolResult

namespace Tools

/-- The event for a process that is about to start. -/
def running (invocation : Invocation) (binary : String) : Event where
  level := .debug
  origin := .tool
  message := "running tool"
  fields := [("tool", invocation.command), ("binary", binary)]

/-- Tools that are processes, each with its work. -/
def processes (work : Invocation → String → Work) : Tools where
  attempt invocation binary start deadline :=
    let timeout : ToolResult := .error (.timeout invocation.program)
    if deadline ≤ start then
      { result := timeout, spawned := false, log := [], finish := start }
    else
      let work := work invocation binary
      let log := [running invocation binary]
      if deadline < start + work.duration then
        { result := timeout, spawned := true, log := log, finish := deadline }
      else
        { result := work.result, spawned := true, log := log, finish := start + work.duration }

end Tools

end Toolmark
