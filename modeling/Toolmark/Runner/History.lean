import Toolmark.Runner

/-!
# Histories of a runner

A runner is set up step by step and makes any number of runs, before and behind each step. A run
leaves the settings as they are.
-/

namespace Toolmark

namespace Runner

/-- A setting with a new value. -/
inductive Setting where
  /-- The detectors. -/
  | detectors (detectors : List Detector)
  /-- The seconds that all tools of a run share. -/
  | timeout (seconds : Nat)
  /-- Whether the tools run one after the other. -/
  | sequential (flag : Bool)
deriving Repr

/-- The runner with a new value for one setting. -/
def set (runner : Runner) : Setting → Runner
  | .detectors detectors => { runner with detectors := detectors }
  | .timeout seconds => { runner with timeoutSecs := seconds }
  | .sequential flag => { runner with sequential := flag }

/-- Something that is done with a runner. -/
inductive Step where
  /-- A setting gets a new value. -/
  | set (setting : Setting)
  /-- A binary is inspected, from an instant on. -/
  | run (binary : String) (start : Instant)
deriving Repr

/-- The runner after a step, and the run that the step made. -/
def step (tools : Tools) (runner : Runner) : Step → Runner × Option (Except RunError Run)
  | .set setting => (runner.set setting, none)
  | .run binary start => (runner, some (runner.run tools binary start))

/-- The runner after a history, and the runs made in it, first to last. -/
def perform (tools : Tools) (runner : Runner) : List Step → Runner × List (Except RunError Run)
  | [] => (runner, [])
  | step :: rest =>
      let next := runner.step tools step
      let later := perform tools next.1 rest
      (later.1, next.2.toList ++ later.2)

end Runner

end Toolmark
