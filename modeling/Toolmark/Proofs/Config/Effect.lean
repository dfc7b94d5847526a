import Toolmark.Proofs.Config
import Toolmark.Proofs.Text.Lowercase

/-!
# What a configuration changes

A configuration is applied exactly if it is valid, and then it changes the fingerprints and the caps
that it names and nothing else. The built-in detectors keep their order, each with room for a
finding and with fingerprints of its kind.
-/

namespace Toolmark

open Text

namespace Matcher

/-- The fingerprints are texts, and one of them is not empty. -/
def HasText (matcher : Matcher) : Prop :=
  ∃ stored, matcher = .substrings stored ∧ ∃ pattern ∈ stored, pattern ≠ ""

theorem hasText_ofPatterns {patterns : List String} (pattern : String) (member : pattern ∈ patterns)
    (nonempty : pattern ≠ "") : (ofPatterns patterns).HasText :=
  ⟨_, rfl, lowercase pattern, List.mem_map_of_mem member, lowercase_ne_empty nonempty⟩

end Matcher

namespace Detector

variable {config : Config} {technique : Technique} {detector : Detector}

theorem hasText_matcher_builtIn (other : technique ≠ .symbols) :
    (builtIn technique).matcher.HasText := by
  cases technique with
  | strings => exact Matcher.hasText_ofPatterns "rust" (by simp) (by simp)
  | symbols => exact absurd rfl other
  | sections => exact Matcher.hasText_ofPatterns "rust" (by simp) (by simp)
  | allocator => exact Matcher.hasText_ofPatterns "__rdl_alloc" (by simp) (by simp)
  | panics => exact Matcher.hasText_ofPatterns "panic" (by simp) (by simp)

theorem InForce.exists_regex (inForce : InForce config .symbols detector)
    (valid : config.validate = .ok ()) : ∃ regex, detector.matcher = .pattern regex := by
  have noPatterns := (Config.overrideOf_suits valid .symbols).noPatterns rfl
  cases given : (config.overrideOf .symbols).regex with
  | none => exact ⟨symbolPattern, inForce.matcher_builtIn noPatterns given⟩
  | some source =>
      obtain ⟨regex, _, matcher_eq⟩ := inForce.matcher_of_regex source given
      exact ⟨regex, matcher_eq⟩

theorem InForce.hasText_matcher (inForce : InForce config technique detector)
    (valid : config.validate = .ok ()) (other : technique ≠ .symbols) :
    detector.matcher.HasText := by
  have suits := Config.overrideOf_suits valid technique
  cases given : (config.overrideOf technique).patterns with
  | none =>
      rw [inForce.matcher_builtIn given (suits.noRegex other)]
      exact hasText_matcher_builtIn other
  | some patterns =>
      obtain ⟨pattern, member⟩ := List.exists_mem_of_ne_nil _ (suits.nonempty patterns given)
      have nonempty : pattern ≠ "" := by
        rintro rfl
        exact suits.nonemptyTexts patterns given member
      rw [inForce.matcher_of_patterns patterns given]
      exact Matcher.hasText_ofPatterns pattern member nonempty

/-- Detectors in force stand in the order of their techniques, each with room for a finding and with
fingerprints of its kind. -/
theorem kinds_of_inForce {techniques : List Technique} {detectors : List Detector}
    (inForce : List.Forall₂ (InForce config) techniques detectors)
    (valid : config.validate = .ok ()) :
    detectors.map (·.technique) = techniques ∧
      ∀ detector ∈ detectors, 1 ≤ detector.cap ∧
        (detector.technique = .symbols → ∃ regex, detector.matcher = .pattern regex) ∧
        (detector.technique ≠ .symbols → detector.matcher.HasText) := by
  induction inForce with
  | nil => simp
  | @cons technique detector techniques detectors keeps _ induction =>
      obtain ⟨order, kinds⟩ := induction
      refine ⟨by rw [List.map_cons, order, keeps.technique_eq], ?_⟩
      refine List.forall_mem_cons.mpr ⟨⟨keeps.cap_pos, ?_, ?_⟩, kinds⟩
      · intro isSymbols
        obtain rfl := keeps.technique_eq.symm.trans isSymbols
        exact keeps.exists_regex valid
      · intro other
        exact keeps.hasText_matcher valid (keeps.technique_eq ▸ other)

end Detector

namespace Config

/-- A configuration is applied to detectors exactly if it is valid. -/
theorem exists_apply_iff {config : Config} (detectors : List Detector) :
    (∃ applied, config.apply detectors = .ok applied) ↔ config.validate = .ok () := by
  constructor
  · rintro ⟨applied, applied_eq⟩
    cases checked : config.validate with
    | ok => rfl
    | error error =>
        rw [apply_of_fault checked] at applied_eq
        nomatch applied_eq
  · intro valid
    obtain ⟨applied, applied_eq, _⟩ := exists_apply valid detectors
    exact ⟨applied, applied_eq⟩

theorem apply_eq_error_iff {config : Config} (detectors : List Detector) (error : ConfigError) :
    config.apply detectors = .error error ↔ config.validate = .error error := by
  constructor
  · intro fault
    cases checked : config.validate with
    | ok =>
        obtain ⟨applied, applied_eq, _⟩ := exists_apply checked detectors
        rw [applied_eq] at fault
        nomatch fault
    | error other =>
        rw [apply_of_fault checked] at fault
        rw [Except.error.inj fault]
  · exact fun fault => apply_of_fault fault detectors

theorem apply_default (detectors : List Detector) : default.apply detectors = .ok detectors := by
  have each : detectors.mapM default.applyTo = detectors.mapM pure := rfl
  change detectors.mapM default.applyTo = _
  rw [each, List.mapM_pure, List.map_id']
  rfl

end Config

/-- A configuration is applied exactly if it is valid, and fails with the fault of its check
otherwise. It replaces in each detector the fingerprints and the cap that it gives for the technique,
and leaves the rest. The default one changes nothing. The built-in detectors keep their order, have
room for a finding, and seek a regular expression for mangled names and texts for everything else. -/
theorem overrides_change_what_they_name (config : Config) :
    (∀ detectors,
      (∃ applied, config.apply detectors = .ok applied) ↔ config.validate = .ok ()) ∧
      (∀ detectors error,
        config.apply detectors = .error error ↔ config.validate = .error error) ∧
      (∀ detectors applied, config.apply detectors = .ok applied →
        applied.length = detectors.length ∧
          List.Forall₂
            (fun before after => (config.overrideOf before.technique).Replaces before after)
            detectors applied) ∧
      (∀ detectors, Config.default.apply detectors = .ok detectors) ∧
      (config.validate = .ok () →
        ∃ applied, config.apply Detector.allBuiltIn = .ok applied ∧
          applied.map (·.technique) = Technique.all ∧
          ∀ detector ∈ applied, 1 ≤ detector.cap ∧
            (detector.technique = .symbols → ∃ regex, detector.matcher = .pattern regex) ∧
            (detector.technique ≠ .symbols → detector.matcher.HasText)) := by
  refine ⟨Config.exists_apply_iff, Config.apply_eq_error_iff, ?_, Config.apply_default, ?_⟩
  · intro detectors applied applied_eq
    have valid := (Config.exists_apply_iff detectors).mp ⟨applied, applied_eq⟩
    obtain ⟨others, others_eq, replaces⟩ := Config.exists_apply valid detectors
    obtain rfl := Except.ok.inj (applied_eq.symm.trans others_eq)
    exact ⟨replaces.length_eq.symm, replaces⟩
  · intro valid
    obtain ⟨applied, applied_eq, inForce⟩ := Config.exists_detectors_inForce valid
    exact ⟨applied, applied_eq, Detector.kinds_of_inForce inForce valid⟩

/-- A configuration with texts and a cap for one technique and a regular expression for another. -/
def replacingConfig : Config :=
  ⟨some 60, ⟨[("strings", ⟨some ["RUSTC", "Σ"], none, some 1⟩), ("symbols", ⟨none, some "_R", none⟩)],
    List.pairwise_pair.mpr (by decide)⟩⟩

/-- It lowers the caps of two detectors of one technique, and not that of a third between them. -/
theorem overrides_change_what_they_name_repeated :
    ∃ applied,
      replacingConfig.apply [Detector.strings, Detector.symbols, Detector.strings] = .ok applied ∧
        applied.map (·.cap) = [1, 5, 1] := by
  have valid : replacingConfig.validate = .ok () := by decide +kernel
  obtain ⟨succeeds, _, replaced, _, _⟩ := overrides_change_what_they_name replacingConfig
  obtain ⟨applied, applied_eq⟩ :=
    (succeeds [Detector.strings, Detector.symbols, Detector.strings]).mpr valid
  obtain ⟨_, replaces⟩ := replaced _ applied applied_eq
  refine ⟨applied, applied_eq, ?_⟩
  cases replaces with
  | cons first replaces =>
      cases replaces with
      | cons second replaces =>
          cases replaces with
          | cons third replaces =>
              cases replaces
              simp only [List.map_cons, List.map_nil, first.cap_eq, second.cap_eq, third.cap_eq]
              rfl

end Toolmark
