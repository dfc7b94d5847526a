import Toolmark.Config.Overrides
import Toolmark.Detector
import Toolmark.Text.Quoted

/-!
# Configurations

A configuration sets the time budget and replaces fingerprints and caps of detectors. It is checked
as a whole before it is applied; the first fault in the order of the identifiers is reported.
-/

namespace Toolmark

/-- A configuration. -/
structure Config where
  /-- The seconds that all tools of a run share. -/
  timeoutSecs : Option Nat
  /-- Replacements for parts of detectors. -/
  detectors : Overrides
deriving DecidableEq, Repr

/-- A fault of a configuration. -/
inductive ConfigError where
  /-- The time budget is empty. -/
  | noTime
  /-- No technique has the identifier. -/
  | unknownTechnique (id : String)
  /-- Texts are given where a regular expression is looked for. -/
  | needsRegex (id : String)
  /-- The text is no regular expression. -/
  | invalidRegex (id pattern : String)
  /-- The text that a detector is to look for is no regular expression. -/
  | unusableRegex (pattern : String)
  /-- A regular expression is given where texts are looked for. -/
  | needsPatterns (id : String)
  /-- There are no texts, or one of them is empty. -/
  | emptyPatterns (id : String)
  /-- A scan would stop before its first finding. -/
  | noCap (id : String)
deriving DecidableEq, Repr

/-- The texts in which libraries tell why they refuse an input. -/
structure Reasons where
  /-- Why a text is no regular expression. -/
  regex : String → String
  /-- Why a text is no configuration. -/
  config : String → String

namespace ConfigError

/-- The text of a fault. -/
def message (reasons : Reasons) : ConfigError → String
  | noTime => "timeout_secs must be greater than zero"
  | unknownTechnique id =>
      "unknown technique " ++ Text.quote id ++ ", expected one of: " ++
        ", ".intercalate (Technique.all.map Technique.id)
  | needsRegex id => id ++ ": use 'regex' instead of 'patterns'"
  | invalidRegex id pattern =>
      id ++ ": invalid regex " ++ Text.quote pattern ++ ": " ++ reasons.regex pattern
  | unusableRegex pattern =>
      "invalid regex " ++ Text.quote pattern ++ ": " ++ reasons.regex pattern
  | needsPatterns id => id ++ ": use 'patterns' instead of 'regex'"
  | emptyPatterns id => id ++ ": patterns must be non-empty strings"
  | noCap id => id ++ ": cap must be greater than zero"

end ConfigError

namespace Override

/-- The first fault of an override of a technique, apart from its cap. -/
def fingerprintFault? (id : String) (technique : Technique) (override : Override) :
    Option ConfigError :=
  if technique = .symbols then
    if override.patterns.isSome then some (.needsRegex id)
    else match override.regex with
      | some pattern =>
          if (Regex.compile? pattern).isNone then some (.invalidRegex id pattern) else none
      | none => none
  else if override.regex.isSome then some (.needsPatterns id)
  else match override.patterns with
    | some patterns =>
        if patterns.isEmpty || patterns.any (·.isEmpty) then some (.emptyPatterns id)
        else none
    | none => none

/-- The first fault of an override. -/
def fault? (id : String) (override : Override) : Option ConfigError :=
  match Technique.ofId? id with
  | none => some (.unknownTechnique id)
  | some technique =>
      match override.fingerprintFault? id technique with
      | some fault => some fault
      | none => if override.cap = some 0 then some (.noCap id) else none

/-- The fingerprints of a detector under an override. A regular expression comes before texts. -/
def matcher (override : Override) (fallback : Matcher) : Except ConfigError Matcher :=
  match override.regex with
  | some pattern =>
      match Regex.compile? pattern with
      | some regex => .ok (.pattern regex)
      | none => .error (.unusableRegex pattern)
  | none =>
      match override.patterns with
      | some patterns => .ok (Matcher.ofPatterns patterns)
      | none => .ok fallback

/-- A detector with the parts that an override replaces. -/
def apply (override : Override) (detector : Detector) : Except ConfigError Detector := do
  let matcher ← override.matcher detector.matcher
  return { detector with
    matcher := matcher
    cap := override.cap.getD detector.cap }

end Override

namespace Config

/-- The configuration that changes nothing. -/
def default : Config := ⟨none, Overrides.empty⟩

/-- The first fault of a configuration. -/
def fault? (config : Config) : Option ConfigError :=
  if config.timeoutSecs = some 0 then some .noTime
  else config.detectors.entries.findSome? fun entry => entry.2.fault? entry.1

/-- The check of a configuration as a whole. -/
def validate (config : Config) : Except ConfigError Unit :=
  match config.fault? with
  | some fault => .error fault
  | none => .ok ()

/-- A detector with the parts that a configuration replaces. -/
def applyTo (config : Config) (detector : Detector) : Except ConfigError Detector :=
  match config.detectors.get? detector.technique.id with
  | some override => override.apply detector
  | none => .ok detector

/-- Detectors with the parts that a configuration replaces. None is added or removed, and the first
detector that cannot be given its parts is reported. -/
def apply (config : Config) (detectors : List Detector) : Except ConfigError (List Detector) := do
  config.validate
  detectors.mapM config.applyTo

end Config

end Toolmark
