import Mathlib.Data.List.Forall2
import Toolmark.Config

/-!
# Detectors in force

A configuration is valid when each of its entries suits the technique that it names. The built-in
detectors under a valid configuration keep their techniques, tools and styles, look for the
fingerprints of its entries where these have some, and have room for at least one finding.
-/

namespace Toolmark

theorem Technique.ofId?_id (technique : Technique) : ofId? technique.id = some technique := by
  cases technique <;> decide

theorem Overrides.mem_of_get? {overrides : Overrides} {id : String} {override : Override}
    (found : overrides.get? id = some override) : (id, override) ∈ overrides.entries := by
  obtain ⟨entry, first, rfl⟩ := Option.map_eq_some_iff.mp found
  have named : entry.1 = id := by simpa using List.find?_some first
  exact named ▸ List.mem_of_find?_eq_some first

/-- An override replaces only what its technique has, and by something that can be looked for. -/
structure Override.Suits (override : Override) (technique : Technique) : Prop where
  /-- Mangled names are not sought by texts. -/
  noPatterns : technique = .symbols → override.patterns = none
  /-- Only mangled names are sought by a regular expression. -/
  noRegex : technique ≠ .symbols → override.regex = none
  /-- A regular expression can be read. -/
  compiles : ∀ source, override.regex = some source → (Regex.compile? source).isSome = true
  /-- There is a text to look for. -/
  nonempty : ∀ patterns, override.patterns = some patterns → patterns ≠ []
  /-- No text occurs everywhere. -/
  nonemptyTexts : ∀ patterns, override.patterns = some patterns → "" ∉ patterns
  /-- There is room for a finding. -/
  cap_ne_zero : override.cap ≠ some 0

namespace Override

variable {id : String} {technique : Technique} {override : Override}

theorem fingerprintFault?_symbols_iff :
    override.fingerprintFault? id .symbols = none ↔
      override.patterns = none ∧
        ∀ source, override.regex = some source → (Regex.compile? source).isSome = true := by
  obtain ⟨patterns, regex, cap⟩ := override
  cases patterns <;> cases regex <;> simp [fingerprintFault?, Option.isSome_iff_ne_none]

theorem fingerprintFault?_of_ne_symbols (other : technique ≠ .symbols) :
    override.fingerprintFault? id technique = none ↔
      override.regex = none ∧
        ∀ patterns, override.patterns = some patterns →
          patterns ≠ [] ∧ "" ∉ patterns := by
  obtain ⟨patterns, regex, cap⟩ := override
  cases regex with
  | some source => simp [fingerprintFault?, other]
  | none => cases patterns <;> simp [fingerprintFault?, other]

theorem suits_iff (id : String) :
    override.Suits technique ↔
      override.fingerprintFault? id technique = none ∧ override.cap ≠ some 0 := by
  by_cases isSymbols : technique = .symbols
  · subst isSymbols
    rw [fingerprintFault?_symbols_iff]
    constructor
    · exact fun suits => ⟨⟨suits.noPatterns rfl, suits.compiles⟩, suits.cap_ne_zero⟩
    · rintro ⟨⟨noPatterns, compiles⟩, cap⟩
      exact
        { noPatterns := fun _ => noPatterns
          noRegex := fun other => absurd rfl other
          compiles := compiles
          nonempty := by simp [noPatterns]
          nonemptyTexts := by simp [noPatterns]
          cap_ne_zero := cap }
  · rw [fingerprintFault?_of_ne_symbols isSymbols]
    constructor
    · exact fun suits =>
        ⟨⟨suits.noRegex isSymbols, fun patterns given =>
          ⟨suits.nonempty patterns given, suits.nonemptyTexts patterns given⟩⟩, suits.cap_ne_zero⟩
    · rintro ⟨⟨noRegex, texts⟩, cap⟩
      exact
        { noPatterns := fun equal => absurd equal isSymbols
          noRegex := fun _ => noRegex
          compiles := by simp [noRegex]
          nonempty := fun patterns given => (texts patterns given).1
          nonemptyTexts := fun patterns given => (texts patterns given).2
          cap_ne_zero := cap }

theorem fault?_eq_none_iff :
    override.fault? id = none ↔
      ∃ technique, Technique.ofId? id = some technique ∧ override.Suits technique := by
  unfold fault?
  cases Technique.ofId? id with
  | none => simp
  | some technique =>
      simp only [Option.some.injEq, exists_eq_left', suits_iff id]
      cases override.fingerprintFault? id technique <;> simp

/-- A detector is another one with the parts that an override replaces. -/
structure Replaces (override : Override) (before after : Detector) : Prop where
  /-- The technique stays. -/
  technique_eq : after.technique = before.technique
  /-- The tool stays. -/
  tool_eq : after.tool = before.tool
  /-- The style stays. -/
  style_eq : after.style = before.style
  /-- Texts that the override gives are sought. -/
  matcher_of_patterns : ∀ patterns, override.patterns = some patterns →
    after.matcher = .ofPatterns patterns
  /-- A regular expression that the override gives is sought. -/
  matcher_of_regex : ∀ source, override.regex = some source →
    ∃ regex, Regex.compile? source = some regex ∧ after.matcher = .pattern regex
  /-- Where the override gives neither, the fingerprints stay. -/
  matcher_eq : override.patterns = none → override.regex = none → after.matcher = before.matcher
  /-- The cap is the given one, or stays. -/
  cap_eq : after.cap = override.cap.getD before.cap

/-- An override that suits a technique can be applied: its regular expression has been read
before. -/
theorem exists_apply (suits : override.Suits technique) (detector : Detector) :
    ∃ applied, override.apply detector = .ok applied ∧ override.Replaces detector applied := by
  have applies (matcher : Matcher) (matcher_eq : override.matcher detector.matcher = .ok matcher) :
      override.apply detector =
        .ok { detector with
          matcher := matcher
          cap := override.cap.getD detector.cap } := by
    rw [apply, matcher_eq]
    rfl
  -- Who gives a regular expression gives no texts, so it does not matter which is looked at first.
  cases given : override.regex with
  | some source =>
      obtain ⟨regex, compiled⟩ := Option.isSome_iff_exists.mp (suits.compiles source given)
      have isSymbols : technique = .symbols := by
        by_contra other
        simp [suits.noRegex other] at given
      refine ⟨_, applies (.pattern regex) (by simp [matcher, given, compiled]), ?_⟩
      constructor
      case technique_eq | tool_eq | style_eq | cap_eq => rfl
      case matcher_of_patterns => simp [suits.noPatterns isSymbols]
      case matcher_of_regex =>
        rintro _ same
        obtain rfl := Option.some.inj (given.symm.trans same)
        exact ⟨regex, compiled, rfl⟩
      case matcher_eq => simp [given]
  | none =>
      cases texts : override.patterns with
      | some patterns =>
          refine ⟨_, applies (.ofPatterns patterns) (by simp [matcher, given, texts]), ?_⟩
          constructor
          case technique_eq | tool_eq | style_eq | cap_eq => rfl
          case matcher_of_patterns =>
            rintro _ same
            obtain rfl := Option.some.inj (texts.symm.trans same)
            rfl
          case matcher_of_regex => simp [given]
          case matcher_eq => simp [texts]
      | none =>
          refine ⟨_, applies detector.matcher (by simp [matcher, given, texts]), ?_⟩
          constructor
          case technique_eq | tool_eq | style_eq | cap_eq => rfl
          case matcher_of_patterns => simp [texts]
          case matcher_of_regex => simp [given]
          case matcher_eq => exact fun _ _ => rfl

end Override

namespace Config

theorem validate_eq_ok_iff {config : Config} :
    config.validate = .ok () ↔
      config.timeoutSecs ≠ some 0 ∧
        ∀ entry ∈ config.detectors.entries,
          ∃ technique, Technique.ofId? entry.1 = some technique ∧ entry.2.Suits technique := by
  have faultless : config.validate = .ok () ↔ config.fault? = none := by
    unfold validate
    cases config.fault? <;> simp
  rw [faultless, fault?]
  by_cases noTime : config.timeoutSecs = some 0
  · simp [noTime]
  · simp [noTime, List.findSome?_eq_none_iff, Override.fault?_eq_none_iff]

/-- The replacements for the detector of a technique. -/
def overrideOf (config : Config) (technique : Technique) : Override :=
  (config.detectors.get? technique.id).getD Override.unchanged

theorem overrideOf_suits {config : Config} (valid : config.validate = .ok ())
    (technique : Technique) : (config.overrideOf technique).Suits technique := by
  unfold overrideOf
  cases found : config.detectors.get? technique.id with
  | none => constructor <;> simp [Override.unchanged]
  | some override =>
      obtain ⟨named, sameId, suits⟩ :=
        (validate_eq_ok_iff.mp valid).2 _ (Overrides.mem_of_get? found)
      rw [Technique.ofId?_id, Option.some.injEq] at sameId
      exact sameId ▸ suits

theorem applyTo_eq (config : Config) (detector : Detector) :
    config.applyTo detector = (config.overrideOf detector.technique).apply detector := by
  unfold applyTo overrideOf
  cases config.detectors.get? detector.technique.id <;> rfl

theorem exists_applyTo {config : Config} (valid : config.validate = .ok ()) (detector : Detector) :
    ∃ applied, config.applyTo detector = .ok applied ∧
      (config.overrideOf detector.technique).Replaces detector applied := by
  rw [applyTo_eq]
  exact Override.exists_apply (overrideOf_suits valid detector.technique) detector

theorem apply_of_fault {config : Config} {error : ConfigError}
    (fault : config.validate = .error error) (detectors : List Detector) :
    config.apply detectors = .error error := by
  rw [apply, fault]
  rfl

/-- A valid configuration replaces parts of each detector, and keeps their order. -/
theorem exists_apply {config : Config} (valid : config.validate = .ok ())
    (detectors : List Detector) :
    ∃ applied, config.apply detectors = .ok applied ∧
      List.Forall₂ (fun before after => (config.overrideOf before.technique).Replaces before after)
        detectors applied := by
  have checked (detectors : List Detector) :
      config.apply detectors = detectors.mapM config.applyTo := by
    rw [apply, valid]
    rfl
  simp only [checked]
  induction detectors with
  | nil => exact ⟨[], rfl, .nil⟩
  | cons detector rest induction =>
      obtain ⟨first, first_eq, replaces⟩ := exists_applyTo valid detector
      obtain ⟨others, others_eq, replacesRest⟩ := induction
      refine ⟨first :: others, ?_, .cons replaces replacesRest⟩
      rw [List.mapM_cons, first_eq, others_eq]
      rfl

end Config

namespace Detector

/-- A detector is the one of a technique under a configuration: the built-in one with the
fingerprints and the cap that the configuration gives. -/
structure InForce (config : Config) (technique : Technique) (detector : Detector) : Prop where
  /-- The technique stays. -/
  technique_eq : detector.technique = technique
  /-- The tool stays. -/
  tool_eq : detector.tool = (builtIn technique).tool
  /-- The style stays. -/
  style_eq : detector.style = (builtIn technique).style
  /-- Texts that the configuration gives are sought. -/
  matcher_of_patterns : ∀ patterns, (config.overrideOf technique).patterns = some patterns →
    detector.matcher = .ofPatterns patterns
  /-- A regular expression that the configuration gives is sought. -/
  matcher_of_regex : ∀ source, (config.overrideOf technique).regex = some source →
    ∃ regex, Regex.compile? source = some regex ∧ detector.matcher = .pattern regex
  /-- Where the configuration gives neither, the built-in fingerprints are sought. -/
  matcher_builtIn : (config.overrideOf technique).patterns = none →
    (config.overrideOf technique).regex = none → detector.matcher = (builtIn technique).matcher
  /-- The cap is the given one or the built-in one. -/
  cap_eq : detector.cap = (config.overrideOf technique).cap.getD (builtIn technique).cap
  /-- There is room for a finding. -/
  cap_pos : 0 < detector.cap

@[simp]
theorem technique_builtIn (technique : Technique) : (builtIn technique).technique = technique := by
  cases technique <;> rfl

theorem cap_builtIn_pos (technique : Technique) : 0 < (builtIn technique).cap := by
  cases technique <;> decide

theorem inForce_of_replaces {config : Config} (valid : config.validate = .ok ())
    {technique : Technique} {detector : Detector}
    (replaces : (config.overrideOf technique).Replaces (builtIn technique) detector) :
    InForce config technique detector where
  technique_eq := replaces.technique_eq.trans (technique_builtIn technique)
  tool_eq := replaces.tool_eq
  style_eq := replaces.style_eq
  matcher_of_patterns := replaces.matcher_of_patterns
  matcher_of_regex := replaces.matcher_of_regex
  matcher_builtIn := replaces.matcher_eq
  cap_eq := replaces.cap_eq
  cap_pos := by
    rw [replaces.cap_eq]
    cases given : (config.overrideOf technique).cap with
    | none => exact cap_builtIn_pos technique
    | some cap =>
        have nonzero : cap ≠ 0 := by
          rintro rfl
          exact (Config.overrideOf_suits valid technique).cap_ne_zero given
        exact Nat.pos_of_ne_zero nonzero

end Detector

/-- A valid configuration gives the detectors in force, in the order of their techniques. -/
theorem Config.exists_detectors_inForce {config : Config} (valid : config.validate = .ok ()) :
    ∃ detectors, config.apply Detector.allBuiltIn = .ok detectors ∧
      List.Forall₂ (Detector.InForce config) Technique.all detectors := by
  obtain ⟨detectors, applied, replaces⟩ := exists_apply valid Detector.allBuiltIn
  refine ⟨detectors, applied, ?_⟩
  rw [Detector.allBuiltIn, List.forall₂_map_left_iff] at replaces
  refine replaces.imp fun technique detector replaces => ?_
  rw [Detector.technique_builtIn] at replaces
  exact Detector.inForce_of_replaces valid replaces

end Toolmark
