import Toolmark.Budget
import Toolmark.Detector
import Toolmark.Verdict

/-!
# Runs

A runner applies every detector of a list once to one binary, either one tool after the other or all
tools at the same time. Its evidence stands in the order of the detectors in both modes.
-/

namespace Toolmark

/-- The settings of runs. -/
structure Runner where
  /-- The detectors in the order of registration. -/
  detectors : List Detector
  /-- The seconds that all tools of a run share. -/
  timeoutSecs : Nat
  /-- The tools run one after the other. -/
  sequential : Bool
deriving Repr

/-- What a run gave. -/
structure Run where
  /-- The evidence of each detector. -/
  evidence : List Evidence
  /-- The command lines run, in the order in which they began. -/
  calls : List Invocation
  /-- The events of the run. -/
  log : List Event
deriving Repr

/-- Why a run could not begin. -/
inductive RunError where
  /-- The clock cannot show the deadline. -/
  | deadlineOverflow
deriving DecidableEq, Repr

/-- The text of a failure to begin. -/
def RunError.message : RunError → String
  | deadlineOverflow => "overflow when adding duration to instant"

namespace Runner

/-- The seconds that tools share when nothing else is said. -/
def defaultTimeoutSecs : Nat := 30

/-- The settings when nothing else is said. -/
def initial : Runner where
  detectors := Detector.allBuiltIn
  timeoutSecs := defaultTimeoutSecs
  sequential := false

/-- The event at the beginning of a run. -/
def starting (runner : Runner) (binary : String) : Event where
  level := .info
  origin := .runner
  message := "starting analysis"
  fields :=
    [("binary", binary), ("detectors", toString runner.detectors.length),
      ("timeout_secs", toString runner.timeoutSecs)]

/-- The event at the end of a detector. -/
def finished (evidence : Evidence) : Event where
  level := .debug
  origin := .runner
  message := "detector finished"
  fields :=
    [("technique", evidence.technique.id), ("positive", flagText evidence.isPositive),
      ("findings", toString evidence.findings.length)]

/-- The event at the end of a run. -/
def concluding (evidence : List Evidence) : Event where
  level := .debug
  origin := .runner
  message := "analysis finished"
  fields := [("positives", toString (Verdict.votes evidence))]

/-- A detector whose tool has been tried. -/
structure Trial where
  /-- The detector. -/
  detector : Detector
  /-- What came of its tool. -/
  attempt : Attempt

namespace Trial

/-- The evidence of the detector. -/
def evidence (trial : Trial) : Evidence := trial.detector.evaluate trial.attempt.result

/-- The events once the result of the tool is known. -/
def conclusion (trial : Trial) : List Event :=
  trial.detector.evaluationLog trial.attempt.result ++ [finished trial.evidence]

end Trial

/-- Work with tools, which adds to the command lines tried before. -/
abbrev Recorded := StateM (List Invocation)

/-- Tries to run a tool on a binary. This is the only way to one, and every try is recorded. -/
def call (tools : Tools) (invocation : Invocation) (binary : String) (now deadline : Instant) :
    Recorded Attempt := do
  modify fun calls => calls ++ [invocation]
  return tools.attempt invocation binary now deadline

/-- Tries the tool of a detector. -/
def tryTool (tools : Tools) (binary : String) (deadline now : Instant) (detector : Detector) :
    Recorded Trial := do
  let attempt ← call tools detector.tool binary now deadline
  return ⟨detector, attempt⟩

/-- Tries the tools of detectors, each when the one before is done. -/
def tryInTurn (tools : Tools) (binary : String) (deadline : Instant) :
    Instant → List Detector → Recorded (List Trial)
  | _, [] => return []
  | now, detector :: rest => do
      let trial ← tryTool tools binary deadline now detector
      let later ← tryInTurn tools binary deadline trial.attempt.finish rest
      return trial :: later

/-- Tries the tools of detectors, all at the same instant. -/
def tryAtOnce (tools : Tools) (binary : String) (deadline start : Instant)
    (detectors : List Detector) : Recorded (List Trial) :=
  detectors.mapM (tryTool tools binary deadline start)

/-- Tries the tools of all detectors of a runner. -/
def tryAll (runner : Runner) (tools : Tools) (binary : String) (start deadline : Instant) :
    Recorded (List Trial) :=
  if runner.sequential then tryInTurn tools binary deadline start runner.detectors
  else tryAtOnce tools binary deadline start runner.detectors

/-- The events of trials that followed each other. -/
def logInTurn (trials : List Trial) : List Event :=
  trials.flatMap fun trial => trial.attempt.log ++ trial.conclusion

/-- The events of trials begun at the same instant. A result known at once is reported before the
next tool is tried, the others are reported in the order in which they became known. -/
def logAtOnce (start : Instant) (trials : List Trial) : List Event :=
  let beginnings := trials.flatMap fun trial =>
    trial.attempt.log ++ if trial.attempt.finish ≤ start then trial.conclusion else []
  let later := (trials.filter fun trial => start < trial.attempt.finish).mergeSort
    fun left right => left.attempt.finish ≤ right.attempt.finish
  beginnings ++ later.flatMap Trial.conclusion

/-- The run of all detectors on a binary, begun at an instant. -/
def run (runner : Runner) (tools : Tools) (binary : String) (start : Instant) :
    Except RunError Run :=
  match deadline? start runner.timeoutSecs with
  | none => .error .deadlineOverflow
  | some deadline =>
      let (trials, calls) := (runner.tryAll tools binary start deadline).run []
      let evidence := trials.map Trial.evidence
      let log := if runner.sequential then logInTurn trials else logAtOnce start trials
      .ok
        { evidence := evidence
          calls := calls
          log := runner.starting binary :: log ++ [concluding evidence] }

end Runner

end Toolmark
