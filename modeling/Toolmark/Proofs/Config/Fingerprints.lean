import Toolmark.Proofs.Config.EmptyOutput
import Toolmark.Proofs.Subsumption
import Toolmark.Proofs.Text.Lowered

/-!
# Texts that a configuration gives

Output is tested line by line, and lower case neither makes nor loses a line feed. So a given text
without line feed is found in an output that consists of it, and a text with one occurs in no line:
it is accepted by the check of the configuration, but never met.
-/

namespace Toolmark

open Text

namespace Matcher

/-- Texts that fit on one line. -/
def ofOneLine (patterns : List String) : List String :=
  patterns.filter fun pattern => '\n' ∉ pattern.toList

theorem mem_ofOneLine_iff {patterns : List String} {pattern : String} :
    pattern ∈ ofOneLine patterns ↔ pattern ∈ patterns ∧ '\n' ∉ pattern.toList := by
  simp [ofOneLine]

theorem StandsFor.newline_not_mem {pattern line : String} (stands : StandsFor pattern line)
    (isLine : '\n' ∉ line.toList) : '\n' ∉ pattern.toList := by
  rw [← newline_mem_lowercase_iff] at isLine ⊢
  exact fun member => isLine (stands.subset member)

/-- A line is accepted for the sake of a text that fits on one line. -/
theorem accepts_ofOneLine (patterns : List String) {line : String} (isLine : '\n' ∉ line.toList) :
    (ofPatterns (ofOneLine patterns)).accepts line = (ofPatterns patterns).accepts line := by
  rw [Bool.eq_iff_iff, accepts_ofPatterns_iff, accepts_ofPatterns_iff]
  constructor
  · rintro ⟨pattern, member, stands⟩
    exact ⟨pattern, (mem_ofOneLine_iff.mp member).1, stands⟩
  · rintro ⟨pattern, member, stands⟩
    exact ⟨pattern, mem_ofOneLine_iff.mpr ⟨member, stands.newline_not_mem isLine⟩, stands⟩

end Matcher

open Matcher

namespace Detector

variable {detector : Detector} {patterns : List String}

theorem isPositive_scan_of_mem (positive : 0 < detector.cap)
    (matcher_eq : detector.matcher = .ofPatterns patterns) {pattern : String}
    (member : pattern ∈ patterns) (isLine : '\n' ∉ pattern.toList) :
    (detector.scan pattern).isPositive = true := by
  have one_line : lines pattern = [pattern] := by
    simp [lines, segments_of_not_mem isLine]
  have accepts : (ofPatterns patterns).accepts pattern = true :=
    (accepts_ofPatterns_iff patterns pattern).mpr ⟨pattern, member, .refl pattern⟩
  rw [isPositive_scan_iff positive, one_line, matcher_eq]
  exact ⟨pattern, List.mem_singleton_self pattern, accepts⟩

/-- Texts that do not fit on one line are not needed. -/
theorem scan_seeking_ofOneLine (matcher_eq : detector.matcher = .ofPatterns patterns)
    (output : String) :
    (detector.seeking (ofOneLine patterns)).scan output = detector.scan output := by
  have same (line : String) (member : line ∈ lines output) :
      (ofPatterns (ofOneLine patterns)).accepts line = detector.matcher.accepts line := by
    rw [matcher_eq]
    exact accepts_ofOneLine patterns (newline_not_mem_of_mem_lines member)
  simp only [scan, seeking, Scan.run_congr same]

end Detector

/-- A valid configuration gives one detector for each technique. Where it gives texts, each of them
that fits on one line is evidence when the tool prints nothing else. The others make no difference
to any evidence: when the tool prints such a text, this is evidence exactly if a text on one line is
met in one of its lines. -/
theorem given_texts_are_found {config : Config} (valid : config.validate = .ok ()) :
    ∃ detectors, config.apply Detector.allBuiltIn = .ok detectors ∧
      detectors.map (·.technique) = Technique.all ∧
      ∀ detector ∈ detectors, detector.technique ≠ .symbols →
        ∀ patterns, (config.overrideOf detector.technique).patterns = some patterns →
          (∀ pattern ∈ patterns, '\n' ∉ pattern.toList →
            (detector.evaluate (.ok pattern)).isPositive = true) ∧
          (∀ output, detector.evaluate (.ok output) =
            (detector.seeking (ofOneLine patterns)).evaluate (.ok output)) ∧
          ∀ pattern ∈ patterns, '\n' ∈ pattern.toList →
            ((detector.evaluate (.ok pattern)).isPositive = true ↔
              ∃ line ∈ lines pattern, ∃ other ∈ patterns,
                '\n' ∉ other.toList ∧ StandsFor other line) := by
  obtain ⟨detectors, applied, inForce⟩ := Config.exists_detectors_inForce valid
  refine ⟨detectors, applied, (Detector.kinds_of_inForce inForce valid).1, ?_⟩
  intro detector member _ patterns given
  have inForce_self := Detector.inForce_of_mem inForce member
  have matcher_eq := inForce_self.matcher_of_patterns patterns given
  refine ⟨fun pattern inPatterns isLine => ?_, fun output => ?_, fun pattern _ _ => ?_⟩
  · exact Detector.isPositive_scan_of_mem inForce_self.cap_pos matcher_eq inPatterns isLine
  · exact (Detector.scan_seeking_ofOneLine matcher_eq output).symm
  · have positive_iff := Detector.isPositive_scan_iff inForce_self.cap_pos pattern
    rw [Detector.evaluate, positive_iff, matcher_eq]
    refine exists_congr fun line => and_congr_right fun inLines => ?_
    rw [← accepts_ofOneLine patterns (newline_not_mem_of_mem_lines inLines), accepts_ofPatterns_iff]
    simp only [mem_ofOneLine_iff, and_assoc]

/-- A configuration with a capital sigma, a blank, and a text of two lines. -/
def textsOfLinesConfig : Config :=
  ⟨none, [("sections", ⟨some ["libΣ", " ", "a\nB c"], none, some 1⟩)],
    List.pairwise_singleton _ _⟩

/-- The sigma and the blank are found; so is the text of two lines, for the blank in its second
line. -/
theorem given_texts_are_found_lines :
    textsOfLinesConfig.validate = .ok () ∧
      ∃ detectors, textsOfLinesConfig.apply Detector.allBuiltIn = .ok detectors ∧
        ∃ detector ∈ detectors, detector.technique = .sections ∧
          (detector.evaluate (.ok "libΣ")).isPositive = true ∧
          (detector.evaluate (.ok " ")).isPositive = true ∧
          (detector.evaluate (.ok "a\nB c")).isPositive = true := by
  have valid : textsOfLinesConfig.validate = .ok () := rfl
  obtain ⟨detectors, applied, techniques, found⟩ := given_texts_are_found valid
  have sections_mem : Technique.sections ∈ detectors.map (·.technique) := techniques ▸ by decide
  obtain ⟨detector, member, technique_eq⟩ := List.mem_map.mp sections_mem
  have given : (textsOfLinesConfig.overrideOf detector.technique).patterns =
      some ["libΣ", " ", "a\nB c"] := by
    rw [technique_eq]
    decide
  have other : detector.technique ≠ .symbols := technique_eq ▸ Technique.noConfusion
  have stands : StandsFor " " "B c" := by decide +kernel
  obtain ⟨ofLine, -, ofLines⟩ := found detector member other _ given
  refine ⟨valid, detectors, applied, detector, member, technique_eq, ofLine _ (by simp) (by decide),
    ofLine _ (by simp) (by decide), (ofLines _ (by simp) (by decide)).mpr ?_⟩
  exact ⟨"B c", by decide, " ", by simp, by decide, stands⟩

/-- A configuration with one text of two lines. -/
def brokenTextConfig : Config :=
  ⟨none, ⟨[("strings", ⟨some ["a\nb"], none, none⟩)], List.pairwise_singleton _ _⟩⟩

/-- It is valid, and its text is no evidence when the tool prints nothing else. -/
theorem text_of_two_lines_is_not_found :
    brokenTextConfig.validate = .ok () ∧
      (brokenTextConfig.overrideOf .strings).patterns = some ["a\nb"] ∧
      ∃ detectors, brokenTextConfig.apply Detector.allBuiltIn = .ok detectors ∧
        ∃ detector ∈ detectors, detector.technique = .strings ∧
          (detector.evaluate (.ok "a\nb")).isPositive = false := by
  have missed :
      ((brokenTextConfig.apply Detector.allBuiltIn).toOption.map fun detectors =>
        detectors.any fun detector => detector.technique = .strings &&
          !(detector.evaluate (.ok "a\nb")).isPositive) = some true := by
    decide +kernel
  have valid : brokenTextConfig.validate = .ok () := rfl
  obtain ⟨detectors, applied⟩ := (Config.exists_apply_iff Detector.allBuiltIn).mpr valid
  rw [applied] at missed
  obtain ⟨detector, member, isMissed⟩ := List.any_eq_true.mp (Option.some.inj missed)
  rw [Bool.and_eq_true, Bool.not_eq_true', decide_eq_true_eq] at isMissed
  exact ⟨valid, by decide, detectors, applied, detector, member, isMissed⟩

end Toolmark
