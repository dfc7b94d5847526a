import Mathlib.Data.List.Forall2
import Toolmark.Proofs.Detector
import Toolmark.Proofs.Matcher
import Toolmark.Proofs.Runner
import Toolmark.Proofs.Verdict

/-!
# Patterns that stand for others

A stored pattern stands for every stored pattern in which it occurs. A list of patterns subsumes
another if it has such a pattern for each of the other's, and this is so exactly if it accepts all
lines that the other accepts. More accepted lines never take evidence away, neither from a detector
nor from a run, and lists that subsume each other cannot be told apart by any text.
-/

namespace Toolmark

open Text

namespace Matcher

/-! ## Lines -/

/-- Every line that the second set accepts, the first accepts as well. -/
def Covers (wide narrow : Matcher) : Prop :=
  ∀ line : String, narrow.accepts line = true → wide.accepts line = true

/-- A pattern occurs in another, both as stored. -/
def StandsFor (other pattern : String) : Prop :=
  (lowercase other).toList <:+: (lowercase pattern).toList

instance (other pattern : String) : Decidable (StandsFor other pattern) :=
  inferInstanceAs (Decidable (_ <:+: _))

/-- Some pattern of the first list stands for every pattern of the second. -/
def Subsumes (general special : List String) : Prop :=
  ∀ pattern ∈ special, ∃ other ∈ general, StandsFor other pattern

instance (general special : List String) : Decidable (Subsumes general special) :=
  inferInstanceAs (Decidable (∀ pattern ∈ special, ∃ other ∈ general, StandsFor other pattern))

variable {general special : List String}

theorem StandsFor.refl (pattern : String) : StandsFor pattern pattern := List.infix_rfl

theorem accepts_ofPatterns_iff (patterns : List String) (line : String) :
    (ofPatterns patterns).accepts line = true ↔ ∃ pattern ∈ patterns, StandsFor pattern line := by
  simp [ofPatterns, accepts_substrings_iff, StandsFor]

/-- A list subsumes another exactly if it accepts all its lines: among them are its patterns. -/
theorem subsumes_iff_covers :
    Subsumes general special ↔ (ofPatterns general).Covers (ofPatterns special) := by
  constructor
  · intro subsumes line accepts
    obtain ⟨pattern, member, occurs⟩ := (accepts_ofPatterns_iff special line).mp accepts
    obtain ⟨other, inGeneral, within⟩ := subsumes pattern member
    exact (accepts_ofPatterns_iff general line).mpr ⟨other, inGeneral, within.trans occurs⟩
  · intro covers pattern member
    have accepts : (ofPatterns special).accepts pattern = true :=
      (accepts_ofPatterns_iff special pattern).mpr ⟨pattern, member, .refl pattern⟩
    exact (accepts_ofPatterns_iff general pattern).mp (covers pattern accepts)

theorem Subsumes.of_subset (subset : special ⊆ general) : Subsumes general special :=
  fun pattern member => ⟨pattern, subset member, .refl pattern⟩

theorem Subsumes.of_standsFor {front back : List String} {pattern other : String}
    (member : other ∈ front ++ back) (stands : StandsFor other pattern) :
    Subsumes (front ++ back) (front ++ pattern :: back) := by
  intro each inList
  have cases_each : each = pattern ∨ each ∈ front ++ back := by
    simpa [or_left_comm] using inList
  rcases cases_each with rfl | remains
  · exact ⟨other, member, stands⟩
  · exact ⟨each, remains, .refl each⟩

/-- What occurs in a pattern as written stands for it, if its sigmas are lowered alike. -/
theorem StandsFor.of_keepsSigmas {pattern other : String} {before after : List Char}
    (occurs : pattern.toList = before ++ other.toList ++ after)
    (keeps : KeepsSigmas before.reverse after other.toList) : StandsFor other pattern := by
  have accepts := accepts_of_keepsSigmas (List.mem_singleton_self other) occurs keeps
  obtain ⟨same, member, within⟩ := (accepts_ofPatterns_iff [other] pattern).mp accepts
  exact List.mem_singleton.mp member ▸ within

theorem accepts_eq_of_subsumes (forth : Subsumes general special) (back : Subsumes special general)
    (line : String) : (ofPatterns general).accepts line = (ofPatterns special).accepts line := by
  rw [Bool.eq_iff_iff]
  exact ⟨subsumes_iff_covers.mp back line, subsumes_iff_covers.mp forth line⟩

end Matcher

open Matcher

/-! ## Texts -/

namespace Scan

variable {wide narrow : Matcher} {style : Style} {cap : Nat} {text : String}

theorem length_accepted_le (covers : wide.Covers narrow) (all : List String) :
    (accepted narrow all).length ≤ (accepted wide all).length :=
  (List.monotone_filter_right all.zipIdx fun line => covers line.1).length_le

theorem exists_first_line (text : String) : ∃ first, (lines text)[0]? = some first := by
  obtain ⟨first, rest, all_eq⟩ := List.exists_cons_of_ne_nil (lines_ne_nil text)
  exact ⟨first, by rw [all_eq, List.getElem?_cons_zero]⟩

theorem findings_ne_nil_of_covers (covers : wide.Covers narrow)
    (found : (run text narrow style cap).findings ≠ []) :
    (run text wide style cap).findings ≠ [] := by
  rcases Nat.eq_zero_or_pos cap with rfl | positive
  · -- Without room only the first line is read.
    obtain ⟨first, first_eq⟩ := exists_first_line text
    rw [run_zero first_eq] at found ⊢
    have accepts : narrow.accepts first = true := by
      by_contra rejected
      simp [rejected] at found
    simp [covers first accepts]
  · have more := length_accepted_le covers (lines text)
    rw [run_eq text positive, ← List.length_pos_iff, List.length_take, length_renderings] at found ⊢
    omega

theorem truncated_of_covers (covers : wide.Covers narrow)
    (full : (run text narrow style cap).truncated = true) :
    (run text wide style cap).truncated = true := by
  rcases Nat.eq_zero_or_pos cap with rfl | positive
  · obtain ⟨first, first_eq⟩ := exists_first_line text
    rw [run_zero first_eq]
  · have more := length_accepted_le covers (lines text)
    rw [run_eq text positive, decide_eq_true_eq] at full ⊢
    omega

theorem run_congr (same : ∀ line ∈ lines text, wide.accepts line = narrow.accepts line)
    (style : Style) (cap : Nat) : run text wide style cap = run text narrow style cap := by
  have resume_eq (all found : List String) (room index : Nat) (rest : List String)
      (sameRest : ∀ line ∈ rest, wide.accepts line = narrow.accepts line) :
      resume wide style all found room index rest =
        resume narrow style all found room index rest := by
    induction rest generalizing found room index with
    | nil => rfl
    | cons line rest induction =>
        obtain ⟨first, later⟩ := List.forall_mem_cons.mp sameRest
        simp only [resume, first, induction _ _ _ later]
  exact resume_eq (lines text) [] cap 0 (lines text) same

end Scan

/-! ## Detectors -/

namespace Detector

/-- The detector when it looks for the patterns of a list. -/
def seeking (detector : Detector) (patterns : List String) : Detector :=
  { detector with matcher := ofPatterns patterns }

/-- No detector finds anything else in any text when it looks for one list instead of the other. -/
def FindsAlike (left right : List String) : Prop :=
  ∀ (detector : Detector) (text : String),
    (detector.seeking left).scan text = (detector.seeking right).scan text

/-- A detector is left as it is, or looks for one list where it looked for the other. -/
def Switches (special general : List String) (before after : Detector) : Prop :=
  after = before ∨
    ∃ detector : Detector, before = detector.seeking special ∧ after = detector.seeking general

/-- A detector is another one with fingerprints that cover those of the other. -/
structure Widens (after before : Detector) : Prop where
  technique_eq : after.technique = before.technique
  tool_eq : after.tool = before.tool
  style_eq : after.style = before.style
  cap_eq : after.cap = before.cap
  covers : after.matcher.Covers before.matcher

variable {before after : Detector}

theorem Widens.refl (detector : Detector) : detector.Widens detector :=
  ⟨rfl, rfl, rfl, rfl, fun _ accepts => accepts⟩

theorem widens_seeking {general special : List String} (subsumes : Subsumes general special)
    (detector : Detector) : (detector.seeking general).Widens (detector.seeking special) :=
  ⟨rfl, rfl, rfl, rfl, subsumes_iff_covers.mp subsumes⟩

theorem Switches.widens {general special : List String} (subsumes : Subsumes general special)
    (switches : Switches special general before after) : after.Widens before := by
  rcases switches with rfl | ⟨detector, rfl, rfl⟩
  · exact .refl _
  · exact widens_seeking subsumes detector

theorem isPositive_scan_iff_findings (detector : Detector) (text : String) :
    (detector.scan text).isPositive = true ↔
      (Scan.run text detector.matcher detector.style detector.cap).findings ≠ [] :=
  (detector.scan text).isPositive_iff

theorem truncated_scan_iff_run (detector : Detector) (text : String) :
    (detector.scan text).truncated = true ↔
      (Scan.run text detector.matcher detector.style detector.cap).truncated = true ∧
        (detector.scan text).isPositive = true := by
  rw [isPositive_scan_iff_findings]
  exact Evidence.truncated_ofFound_iff _ _ _

theorem Widens.isPositive_scan (widens : after.Widens before) {text : String}
    (positive : (before.scan text).isPositive = true) : (after.scan text).isPositive = true := by
  rw [isPositive_scan_iff_findings] at positive ⊢
  rw [widens.style_eq, widens.cap_eq]
  exact Scan.findings_ne_nil_of_covers widens.covers positive

theorem Widens.truncated_scan (widens : after.Widens before) {text : String}
    (truncated : (before.scan text).truncated = true) : (after.scan text).truncated = true := by
  obtain ⟨full, positive⟩ := (truncated_scan_iff_run before text).mp truncated
  rw [truncated_scan_iff_run, widens.style_eq, widens.cap_eq]
  exact ⟨Scan.truncated_of_covers widens.covers full, widens.isPositive_scan positive⟩

theorem Widens.isPositive_evaluate (widens : after.Widens before) {result : ToolResult}
    (positive : (before.evaluate result).isPositive = true) :
    (after.evaluate result).isPositive = true := by
  cases result with
  | ok text => exact widens.isPositive_scan positive
  | error failure => nomatch positive

theorem findsAlike_of_subsumes {left right : List String} (forth : Subsumes left right)
    (back : Subsumes right left) : FindsAlike left right := by
  intro detector text
  have same (line : String) (_ : line ∈ lines text) :
      (ofPatterns left).accepts line = (ofPatterns right).accepts line :=
    accepts_eq_of_subsumes forth back line
  have run_eq := Scan.run_congr same detector.style detector.cap
  simp only [scan, seeking, run_eq]

end Detector

/-! ## Runs -/

namespace Runner

/-- Detectors that need the same tools in the same order try them alike. -/
theorem forall₂_trials {related : Detector → Detector → Prop} (runner : Runner)
    {others : List Detector} (all : List.Forall₂ related runner.detectors others)
    (tool_eq : ∀ detector other, related detector other → other.tool = detector.tool)
    (tools : Tools) (binary : String) (start deadline : Instant) :
    List.Forall₂
      (fun trial other => related trial.detector other.detector ∧ other.attempt = trial.attempt)
      (runner.trials tools binary start deadline)
      ({ runner with detectors := others }.trials tools binary start deadline) := by
  have inTurn {detectors others : List Detector} (all : List.Forall₂ related detectors others)
      (now : Instant) : List.Forall₂
        (fun trial other => related trial.detector other.detector ∧ other.attempt = trial.attempt)
        (trialsInTurn tools binary deadline now detectors)
        (trialsInTurn tools binary deadline now others) := by
    induction all generalizing now with
    | nil => exact .nil
    | cons first _ induction =>
        rw [trialsInTurn, trialsInTurn, tool_eq _ _ first]
        exact .cons ⟨first, rfl⟩ (induction _)
  rw [trials_eq, trials_eq]
  split
  · exact inTurn all start
  · rw [trialsAtOnce, trialsAtOnce, List.forall₂_map_left_iff, List.forall₂_map_right_iff]
    exact all.imp fun detector other first => ⟨first, by rw [tool_eq detector other first]⟩

/-- A run of detectors with wider fingerprints has no fewer votes. -/
theorem exists_run_of_widens {runner : Runner} {others : List Detector}
    (widened : List.Forall₂ (fun before after => after.Widens before) runner.detectors others)
    {tools : Tools} {binary : String} {start : Instant} {before : Run}
    (began : runner.run tools binary start = .ok before) :
    ∃ after, { runner with detectors := others }.run tools binary start = .ok after ∧
      Verdict.votes before.evidence ≤ Verdict.votes after.evidence := by
  obtain ⟨deadline, deadline_eq, evidence_eq⟩ := exists_deadline began
  refine ⟨_, run_eq deadline_eq, ?_⟩
  rw [evidence_eq]
  apply Verdict.votes_le_of_forall₂
  rw [List.forall₂_map_left_iff, List.forall₂_map_right_iff]
  have tool_eq : ∀ before after : Detector, after.Widens before → after.tool = before.tool :=
    fun _ _ widens => widens.tool_eq
  refine (runner.forall₂_trials widened tool_eq tools binary start deadline).imp ?_
  rintro trial other ⟨widens, attempt_eq⟩ positive
  rw [Trial.evidence, attempt_eq]
  exact widens.isPositive_evaluate positive

end Runner

/-- A list of patterns subsumes another exactly if it accepts all its lines. Then a detector that
looks for it is positive, and truncated, wherever one that looks for the other is, and a run in
which some detectors switch to it has no fewer votes and no less confidence. Lists that subsume each
other give the same evidence of every text. This holds of lists with the same patterns in another
order and number, and of a list without a pattern for which a remaining one stands, which is so if
the latter occurs in the former as written and has no capital sigma that is lowered there in another
way. Windows are taken without overflow, as of styles that fit the text (`Style.Fits`). -/
theorem subsuming_patterns_lose_nothing (general special : List String) :
    (Subsumes general special ↔
      ∀ line, (ofPatterns special).accepts line = true →
        (ofPatterns general).accepts line = true) ∧
      (Subsumes general special →
        (∀ (detector : Detector) (text : String),
          let before := (detector.seeking special).scan text
          let after := (detector.seeking general).scan text
          (before.isPositive = true → after.isPositive = true) ∧
            (before.truncated = true → after.truncated = true)) ∧
        ∀ (runner : Runner) (others : List Detector),
          List.Forall₂ (Detector.Switches special general) runner.detectors others →
          ∀ tools binary start before, runner.run tools binary start = .ok before →
            ∃ after, { runner with detectors := others }.run tools binary start = .ok after ∧
              (Verdict.ofEvidence before.evidence).positives ≤
                (Verdict.ofEvidence after.evidence).positives ∧
              (Verdict.ofEvidence before.evidence).confidence ≤
                (Verdict.ofEvidence after.evidence).confidence) ∧
      (Subsumes general special → Subsumes special general →
        Detector.FindsAlike general special) ∧
      ((∀ pattern, pattern ∈ general ↔ pattern ∈ special) →
        Detector.FindsAlike general special) ∧
      (∀ (front back : List String) (pattern other : String),
        other ∈ front ++ back → StandsFor other pattern →
          Detector.FindsAlike (front ++ pattern :: back) (front ++ back)) ∧
      ∀ (pattern other : String) (before after : List Char),
        pattern.toList = before ++ other.toList ++ after →
          KeepsSigmas before.reverse after other.toList → StandsFor other pattern := by
  refine ⟨subsumes_iff_covers, fun subsumes => ⟨fun detector text => ?_, ?_⟩, ?_, ?_, ?_, ?_⟩
  · have widens := Detector.widens_seeking subsumes detector
    exact ⟨widens.isPositive_scan, widens.truncated_scan⟩
  · intro runner others switched tools binary start before run_eq
    have widened : List.Forall₂ (fun before after : Detector => after.Widens before)
        runner.detectors others :=
      switched.imp fun _ _ switches => switches.widens subsumes
    obtain ⟨after, after_eq, votes_le⟩ := Runner.exists_run_of_widens widened run_eq
    exact ⟨after, after_eq, votes_le, Confidence.ofVotes_le votes_le⟩
  · exact Detector.findsAlike_of_subsumes
  · intro same
    exact Detector.findsAlike_of_subsumes (.of_subset fun pattern => (same pattern).mpr)
      (.of_subset fun pattern => (same pattern).mp)
  · intro front back pattern other member stands
    have subset : front ++ back ⊆ front ++ pattern :: back := by
      intro each inRest
      simp only [List.mem_append, List.mem_cons] at inRest ⊢
      exact inRest.imp_right .inr
    exact Detector.findsAlike_of_subsumes (.of_subset subset) (.of_standsFor member stands)
  · exact fun _ _ _ _ written keeps => .of_keepsSigmas written keeps

/-- The word `rust` stands for longer names in any case, and loses none of their votes where one of
two detectors switches to it. Beside it, the name of the compiler is not needed. -/
theorem subsuming_patterns_lose_nothing_word :
    Subsumes ["cargo", "rust"] ["RUSTC", "Cargo.toml"] ∧
      (let runner := Runner.mk
          [Detector.strings.seeking ["RUSTC", "Cargo.toml"], Detector.allocator] 30 true
        let others := [Detector.strings.seeking ["cargo", "rust"], Detector.allocator]
        let tools := Tools.scripted fun _ => .ok "rustc 1.75\n__rust_alloc"
        ∃ before after, runner.run tools "app" 0 = .ok before ∧
          { runner with detectors := others }.run tools "app" 0 = .ok after ∧
          (Verdict.ofEvidence before.evidence).positives = 2 ∧
          2 ≤ (Verdict.ofEvidence after.evidence).positives) ∧
      Detector.FindsAlike ["cargo", "rustc", "rust"] ["cargo", "rust"] := by
  have subsumes : Subsumes ["cargo", "rust"] ["RUSTC", "Cargo.toml"] := by decide +kernel
  have stands : StandsFor "rust" "rustc" := by decide +kernel
  obtain ⟨-, monotone, -, -, dropped, -⟩ :=
    subsuming_patterns_lose_nothing ["cargo", "rust"] ["RUSTC", "Cargo.toml"]
  refine ⟨subsumes, ?_, dropped ["cargo"] ["rust"] "rustc" "rust" (by simp) stands⟩
  intro runner others tools
  have switched : List.Forall₂
      (Detector.Switches ["RUSTC", "Cargo.toml"] ["cargo", "rust"]) runner.detectors others :=
    .cons (.inr ⟨Detector.strings, rfl, rfl⟩) (.cons (.inl rfl) .nil)
  obtain ⟨before, before_eq⟩ : ∃ before, runner.run tools "app" 0 = .ok before := ⟨_, rfl⟩
  have positives_eq : (runner.run tools "app" 0).toOption.map
      (fun run => (Verdict.ofEvidence run.evidence).positives) = some 2 := by
    decide +kernel
  obtain ⟨after, after_eq, positives_le, -⟩ :=
    (monotone subsumes).2 runner others switched tools "app" 0 before before_eq
  have before_positives : (Verdict.ofEvidence before.evidence).positives = 2 := by
    rw [before_eq] at positives_eq
    exact Option.some.inj positives_eq
  exact ⟨before, after, before_eq, after_eq, before_positives, before_positives ▸ positives_le⟩

end Toolmark
