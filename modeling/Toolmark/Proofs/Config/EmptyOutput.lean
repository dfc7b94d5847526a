import Toolmark.Proofs.Config.Effect
import Toolmark.Proofs.Detector
import Toolmark.Proofs.Matcher

/-!
# Tools that print nothing

Empty output is one empty line. Under a valid configuration no text occurs in it, so every detector
by texts gives the evidence of a tool that failed. The detector of mangled names does so too, unless
the configuration gives it a regular expression that matches the empty text.
-/

namespace Toolmark

open Text

theorem Matcher.accepts_empty_iff (patterns : List String) :
    (ofPatterns patterns).accepts "" = true ↔ "" ∈ patterns := by
  rw [ofPatterns, accepts_substrings_iff]
  constructor
  · rintro ⟨stored, inStored, occurs⟩
    obtain ⟨pattern, member, rfl⟩ := List.mem_map.mp inStored
    have lowered_empty : lowercase pattern = "" :=
      String.toList_eq_nil_iff.mp (List.infix_nil.mp occurs)
    by_cases nonempty : pattern = ""
    · exact nonempty ▸ member
    · exact absurd lowered_empty (lowercase_ne_empty nonempty)
  · intro member
    exact ⟨lowercase "", List.mem_map_of_mem member, List.nil_infix⟩

namespace Detector

/-- Empty output gives one finding if the empty line is accepted, and none otherwise. -/
theorem scan_empty {detector : Detector} (positive : 0 < detector.cap) :
    detector.scan "" =
      if detector.matcher.accepts "" then
        Evidence.ofFound detector.technique [detector.style.render [""] 0 ""]
          (decide (detector.cap = 1))
      else Evidence.negative detector.technique := by
  have one_line : lines "" = [""] := rfl
  cases accepted : detector.matcher.accepts "" with
  | false =>
      have quiet : ∀ line ∈ lines "", detector.matcher.accepts line = false := by
        intro line member
        rw [one_line, List.mem_singleton] at member
        exact member ▸ accepted
      exact scan_eq_negative quiet
  | true =>
      have accepted_eq : Scan.accepted detector.matcher (lines "") = [("", 0)] := by
        simp [one_line, Scan.accepted, accepted]
      have reached : decide (detector.cap ≤ 1) = decide (detector.cap = 1) :=
        decide_eq_decide.mpr (by omega)
      obtain ⟨less, cap_eq⟩ : ∃ less, detector.cap = less + 1 := ⟨detector.cap - 1, by omega⟩
      rw [scan_eq positive, Scan.renderings, accepted_eq, List.map_singleton,
        List.length_singleton, reached, if_pos rfl]
      simp [cap_eq, one_line]

theorem not_accepts_empty_builtIn (technique : Technique) :
    (builtIn technique).matcher.accepts "" = false := by
  cases technique <;> decide +kernel

variable {config : Config} {technique : Technique} {detector : Detector}

theorem inForce_of_mem {techniques : List Technique} {detectors : List Detector}
    (inForce : List.Forall₂ (InForce config) techniques detectors) (member : detector ∈ detectors) :
    InForce config detector.technique detector := by
  induction inForce with
  | nil => nomatch member
  | cons first _ induction =>
      rcases List.mem_cons.mp member with rfl | later
      · exact first.technique_eq.symm ▸ first
      · exact induction later

theorem InForce.scan_empty_eq_negative (inForce : InForce config technique detector)
    (quiet : detector.matcher.accepts "" = false) :
    detector.scan "" = Evidence.negative technique := by
  rw [scan_empty inForce.cap_pos, quiet, if_neg Bool.false_ne_true, inForce.technique_eq]

/-- Texts that a valid configuration gives do not occur in the empty line. -/
theorem InForce.not_accepts_empty (inForce : InForce config technique detector)
    (valid : config.validate = .ok ()) (noRegex : (config.overrideOf technique).regex = none) :
    detector.matcher.accepts "" = false := by
  cases given : (config.overrideOf technique).patterns with
  | none =>
      rw [inForce.matcher_builtIn given noRegex]
      exact not_accepts_empty_builtIn technique
  | some patterns =>
      have suits := Config.overrideOf_suits valid technique
      rw [inForce.matcher_of_patterns patterns given, ← Bool.not_eq_true,
        Matcher.accepts_empty_iff]
      exact suits.nonemptyTexts patterns given

theorem InForce.scan_empty_of_regex (inForce : InForce config .symbols detector) {source : String}
    (given : (config.overrideOf .symbols).regex = some source) :
    ∃ regex, Regex.compile? source = some regex ∧
      detector.scan "" =
        if regex.matches? "" then Evidence.ofFound .symbols [""] (decide (detector.cap = 1))
        else Evidence.negative .symbols := by
  obtain ⟨regex, compiled, matcher_eq⟩ := inForce.matcher_of_regex source given
  have rendered : detector.style.render [""] 0 "" = "" := by
    rw [inForce.style_eq]
    rfl
  refine ⟨regex, compiled, ?_⟩
  rw [scan_empty inForce.cap_pos, rendered, matcher_eq, inForce.technique_eq]
  rfl

end Detector

/-- A configuration that can be applied to the built-in detectors leaves empty output without
evidence, as if the tool had failed, except where it gives a regular expression for mangled names:
then the empty output is one empty finding exactly if the empty text matches. -/
theorem empty_output_is_negative {config : Config} {detectors : List Detector}
    (applied : config.apply Detector.allBuiltIn = .ok detectors) :
    ∀ detector ∈ detectors,
      (∀ failure,
        detector.evaluate (.error failure) = Evidence.negative detector.technique) ∧
      (detector.technique ≠ .symbols →
        detector.evaluate (.ok "") = Evidence.negative detector.technique) ∧
      (detector.technique = .symbols → (config.overrideOf .symbols).regex = none →
        detector.evaluate (.ok "") = Evidence.negative detector.technique) ∧
      (detector.technique = .symbols →
        ∀ source, (config.overrideOf .symbols).regex = some source →
          ∃ regex, Regex.compile? source = some regex ∧
            detector.evaluate (.ok "") =
              if regex.matches? "" then Evidence.ofFound .symbols [""] (decide (detector.cap = 1))
              else Evidence.negative .symbols) := by
  have valid : config.validate = .ok () := (Config.exists_apply_iff _).mp ⟨detectors, applied⟩
  obtain ⟨others, others_eq, inForce⟩ := Config.exists_detectors_inForce valid
  obtain rfl : detectors = others := Except.ok.inj (applied.symm.trans others_eq)
  intro detector member
  have inForce_self : Detector.InForce config detector.technique detector :=
    Detector.inForce_of_mem inForce member
  have quiet (noRegex : (config.overrideOf detector.technique).regex = none) :
      detector.evaluate (.ok "") = Evidence.negative detector.technique :=
    inForce_self.scan_empty_eq_negative (inForce_self.not_accepts_empty valid noRegex)
  refine ⟨fun _ => rfl, ?_, ?_, ?_⟩
  · exact fun other => quiet ((Config.overrideOf_suits valid detector.technique).noRegex other)
  · exact fun isSymbols noRegex => quiet (isSymbols ▸ noRegex)
  · intro isSymbols source given
    rw [isSymbols] at inForce_self
    exact inForce_self.scan_empty_of_regex given

/-- Empty output is no evidence for texts and for names of one scheme. -/
theorem empty_output_is_negative_replaced :
    ∃ detectors, replacingConfig.apply Detector.allBuiltIn = .ok detectors ∧
      ∀ detector ∈ detectors,
        detector.evaluate (.ok "") = Evidence.negative detector.technique := by
  have valid : replacingConfig.validate = .ok () := by decide +kernel
  have regex_eq : (replacingConfig.overrideOf .symbols).regex = some "_R" := by decide
  have unmatched : ((Regex.compile? "_R").map fun regex => regex.matches? "") = some false := by
    decide +kernel
  obtain ⟨detectors, applied⟩ := (Config.exists_apply_iff Detector.allBuiltIn).mpr valid
  refine ⟨detectors, applied, fun detector member => ?_⟩
  obtain ⟨-, texts, -, names⟩ := empty_output_is_negative applied detector member
  by_cases isSymbols : detector.technique = .symbols
  · obtain ⟨regex, compiled, evidence_eq⟩ := names isSymbols "_R" regex_eq
    have quiet : regex.matches? "" = false := by simpa [compiled] using unmatched
    rw [evidence_eq, quiet, isSymbols, if_neg Bool.false_ne_true]
  · exact texts isSymbols

/-- The configuration that looks for mangled names by the empty regular expression. -/
def emptyRegexConfig : Config :=
  ⟨none, ⟨[("symbols", ⟨none, some "", none⟩)], List.pairwise_singleton _ _⟩⟩

/-- It can be applied, and then a tool that prints nothing counts as evidence. -/
theorem empty_output_is_positive_for_empty_regex :
    ∃ detectors, emptyRegexConfig.apply Detector.allBuiltIn = .ok detectors ∧
      ∃ detector ∈ detectors,
        detector.evaluate (.ok "") ≠ Evidence.negative detector.technique := by
  have positive :
      ((emptyRegexConfig.apply Detector.allBuiltIn).toOption.map fun detectors =>
        detectors.any fun detector => (detector.evaluate (.ok "")).isPositive) = some true := by
    decide +kernel
  have valid : emptyRegexConfig.validate = .ok () := by decide +kernel
  obtain ⟨detectors, applied⟩ := (Config.exists_apply_iff Detector.allBuiltIn).mpr valid
  rw [applied] at positive
  obtain ⟨detector, member, isPositive⟩ := List.any_eq_true.mp (Option.some.inj positive)
  refine ⟨detectors, applied, detector, member, fun negative => ?_⟩
  rw [negative] at isPositive
  nomatch isPositive

end Toolmark
