import Mathlib.Data.List.Basic
import Toolmark.Config
import Toolmark.Proofs.Matcher
import Toolmark.Proofs.Text.Lowered

/-!
# Patterns in lower case

Patterns are stored in lower case, and lines are compared in lower case, so patterns and lines may
be lowered beforehand. A configuration with lowered patterns has the same first fault as before, or
the same detectors come of it.
-/

namespace Toolmark

open Text

namespace Matcher

theorem ofPatterns_map_lowercase (patterns : List String) :
    ofPatterns (patterns.map lowercase) = ofPatterns patterns := by
  simp [ofPatterns, lowercase_lowercase]

theorem accepts_substrings_lowercase (stored : List String) (line : String) :
    (substrings stored).accepts (lowercase line) = (substrings stored).accepts line := by
  simp only [accepts, lowercase_lowercase]

end Matcher

namespace Override

/-- The override with its patterns in lower case. -/
def lowered (override : Override) : Override :=
  { override with patterns := override.patterns.map (·.map lowercase) }

theorem isEmpty_lowercase (text : String) : (lowercase text).isEmpty = text.isEmpty := by
  rw [Bool.eq_iff_iff, String.isEmpty_iff, String.isEmpty_iff]
  constructor
  · intro lowered_empty
    by_contra nonempty
    exact lowercase_ne_empty nonempty lowered_empty
  · rintro rfl
    rfl

variable (override : Override)

/-- Lower case makes no pattern empty, and the other checks do not look at the patterns. -/
theorem fingerprintFault?_lowered (id : String) (technique : Technique) :
    override.lowered.fingerprintFault? id technique =
      override.fingerprintFault? id technique := by
  obtain ⟨patterns, regex, cap⟩ := override
  cases patterns with
  | none => rfl
  | some patterns =>
      simp [lowered, fingerprintFault?, List.any_map, Function.comp_def, isEmpty_lowercase]

theorem fault?_lowered (id : String) : override.lowered.fault? id = override.fault? id := by
  unfold fault?
  simp only [fingerprintFault?_lowered]
  rfl

theorem matcher_lowered (fallback : Matcher) :
    override.lowered.matcher fallback = override.matcher fallback := by
  obtain ⟨patterns, regex, cap⟩ := override
  cases patterns with
  | none => rfl
  | some patterns =>
      simp only [lowered, matcher, Option.map_some, Matcher.ofPatterns_map_lowercase]

theorem apply_lowered (detector : Detector) :
    override.lowered.apply detector = override.apply detector := by
  unfold apply
  rw [matcher_lowered]
  rfl

end Override

namespace Overrides

/-- The overrides with their patterns in lower case. -/
def lowered (overrides : Overrides) : Overrides where
  entries := overrides.entries.map fun entry => (entry.1, entry.2.lowered)
  increasing := overrides.increasing.map _ fun _ _ less => less

theorem get?_lowered (overrides : Overrides) (id : String) :
    overrides.lowered.get? id = (overrides.get? id).map Override.lowered := by
  simp only [get?, lowered, List.find?_map, Option.map_map]
  rfl

end Overrides

namespace Config

/-- The configuration with its patterns in lower case. -/
def lowered (config : Config) : Config := { config with detectors := config.detectors.lowered }

theorem fault?_lowered (config : Config) : config.lowered.fault? = config.fault? := by
  unfold fault?
  simp only [lowered, Overrides.lowered, List.findSome?_map, Function.comp_def,
    Override.fault?_lowered]

theorem validate_lowered (config : Config) : config.lowered.validate = config.validate := by
  rw [validate, validate, fault?_lowered]

theorem applyTo_lowered (config : Config) (detector : Detector) :
    config.lowered.applyTo detector = config.applyTo detector := by
  have found : config.lowered.detectors.get? detector.technique.id =
      (config.detectors.get? detector.technique.id).map Override.lowered :=
    Overrides.get?_lowered config.detectors detector.technique.id
  rw [applyTo, applyTo, found]
  cases config.detectors.get? detector.technique.id with
  | none => rfl
  | some override => exact override.apply_lowered detector

theorem apply_lowered (config : Config) (detectors : List Detector) :
    config.lowered.apply detectors = config.apply detectors := by
  have applyTo_eq : config.lowered.applyTo = config.applyTo := funext config.applyTo_lowered
  rw [apply, apply, validate_lowered, applyTo_eq]

end Config

/-- Lower case is a normal form: lowering a text twice changes nothing more, patterns are stored
alike before and after, and a line is accepted alike before and after. So the patterns of a
configuration may be lowered: it has the same fault, or gives the same detectors, which find the
same evidence in every text. -/
theorem lower_case_is_a_normal_form (text : String) (patterns : List String) (config : Config)
    (detectors : List Detector) :
    lowercase (lowercase text) = lowercase text ∧
      Matcher.ofPatterns (patterns.map lowercase) = Matcher.ofPatterns patterns ∧
      (Matcher.ofPatterns patterns).accepts (lowercase text) =
        (Matcher.ofPatterns patterns).accepts text ∧
      config.lowered.validate = config.validate ∧
      config.lowered.apply detectors = config.apply detectors :=
  ⟨lowercase_lowercase text, Matcher.ofPatterns_map_lowercase patterns,
    Matcher.accepts_substrings_lowercase _ text, config.validate_lowered,
    config.apply_lowered detectors⟩

end Toolmark
