import Mathlib.Data.List.Forall2
import Mathlib.Data.List.Nodup
import Mathlib.Logic.Function.Basic
import Toolmark.Proofs.Detector
import Toolmark.Proofs.Runner
import Toolmark.Proofs.Verdict
import Toolmark.Report

/-!
# Tools that fail

A tool that fails takes away the evidence of the detectors that need it, and nothing else. Only the
log tells such a run from one in which the tool printed nothing of interest.
-/

namespace Toolmark

open Text

/-- A run is another one without what the detectors of one tool found. -/
structure Run.Lacks (after before : Run) (detectors : List Detector) (broken : Invocation) :
    Prop where
  /-- The evidence of the tool becomes negative, and all other evidence stays. -/
  evidence : List.Forall₂
    (fun (known : Detector × Evidence) (later : Evidence) =>
      later = if known.1.tool = broken then .negative known.1.technique else known.2)
    (detectors.zip before.evidence) after.evidence
  /-- Every detector had evidence before. -/
  length_eq : before.evidence.length = detectors.length
  /-- Each positive detector of the tool was one vote. -/
  positives_eq : (Verdict.ofEvidence before.evidence).positives =
    (Verdict.ofEvidence after.evidence).positives +
      (detectors.zip before.evidence).countP fun known =>
        decide (known.1.tool = broken) && known.2.isPositive
  /-- The confidence does not rise. -/
  confidence_le :
    (Verdict.ofEvidence after.evidence).confidence ≤ (Verdict.ofEvidence before.evidence).confidence
  /-- The confidence falls by one tier at most for each detector of the tool. -/
  rank_le : (Verdict.ofEvidence before.evidence).confidence.rank ≤
    (Verdict.ofEvidence after.evidence).confidence.rank +
      detectors.countP fun detector => detector.tool = broken

/-- Two runs report the same. -/
structure Run.Alike (left right : Run) : Prop where
  evidence_eq : left.evidence = right.evidence
  calls_eq : left.calls = right.calls
  verdict_eq : Verdict.ofEvidence left.evidence = Verdict.ofEvidence right.evidence
  report_eq : ∀ (format : Format) (color : Bool) (path : String),
    Report.write format color path left.evidence (Verdict.ofEvidence left.evidence) =
      Report.write format color path right.evidence (Verdict.ofEvidence right.evidence)

theorem Run.alike_of_evidence_eq {left right : Run} (evidence_eq : left.evidence = right.evidence)
    (calls_eq : left.calls = right.calls) : left.Alike right := by
  constructor
  case evidence_eq => exact evidence_eq
  case calls_eq => exact calls_eq
  case verdict_eq => rw [evidence_eq]
  case report_eq =>
    intro format color path
    rw [evidence_eq]

namespace Runner

variable {result : Invocation → ToolResult} {broken : Invocation} {replacement : ToolResult}
  {failure : Failure} {detector : Detector} {output : String}

/-! ## One detector -/

theorem found_update_of_ne (other : detector.tool ≠ broken) :
    found (Function.update result broken replacement) detector = found result detector := by
  rw [found, found, Function.update_of_ne other]

theorem told_update_of_ne (other : detector.tool ≠ broken) :
    told (Function.update result broken replacement) detector = told result detector := by
  rw [told, told, found_update_of_ne other, Function.update_of_ne other]

theorem found_update_error (same : detector.tool = broken) :
    found (Function.update result broken (.error failure)) detector =
      .negative detector.technique := by
  rw [found, same, Function.update_self]
  rfl

theorem found_update_ok (same : detector.tool = broken)
    (quiet : ∀ line ∈ lines output, detector.matcher.accepts line = false) :
    found (Function.update result broken (.ok output)) detector =
      .negative detector.technique := by
  rw [found, same, Function.update_self]
  exact Detector.scan_eq_negative quiet

theorem told_update_error (same : detector.tool = broken) :
    told (Function.update result broken (.error failure)) detector =
      [detector.unavailable failure, finished (.negative detector.technique)] := by
  rw [told, found_update_error same, same, Function.update_self]
  rfl

theorem told_update_ok (same : detector.tool = broken)
    (quiet : ∀ line ∈ lines output, detector.matcher.accepts line = false) :
    told (Function.update result broken (.ok output)) detector =
      [finished (.negative detector.technique)] := by
  rw [told, found_update_ok same quiet, same, Function.update_self]
  rfl

theorem finished_negative (technique : Technique) :
    finished (.negative technique) =
      { level := .debug
        origin := .runner
        message := "detector finished"
        fields := [("technique", technique.id), ("positive", "false"), ("findings", "0")] } := by
  have none : toString (Evidence.negative technique).findings.length = "0" := by
    change toString 0 = "0"
    decide
  rw [finished, none]
  rfl

/-! ## All detectors -/

variable {detectors : List Detector}

theorem zip_map_found (result : Invocation → ToolResult) (detectors : List Detector) :
    detectors.zip (detectors.map (found result)) =
      detectors.map fun detector => (detector, found result detector) :=
  List.map_prod_left_eq_zip.symm

theorem votes_found (result : Invocation → ToolResult) (broken : Invocation) (failure : Failure)
    (detectors : List Detector) :
    Verdict.votes (detectors.map (found result)) =
      Verdict.votes (detectors.map (found (Function.update result broken (.error failure)))) +
        (detectors.zip (detectors.map (found result))).countP fun known =>
          decide (known.1.tool = broken) && known.2.isPositive := by
  rw [zip_map_found]
  simp only [Verdict.votes, List.countP_map]
  -- A detector of the tool loses its vote, which is the one counted at the end; the vote of another
  -- one stays and is not counted there.
  induction detectors with
  | nil => rfl
  | cons detector rest induction =>
      simp only [List.countP_cons, Function.comp_apply] at induction ⊢
      by_cases same : detector.tool = broken
      · have lost : (Evidence.negative detector.technique).isPositive = false := rfl
        simp only [found_update_error same, lost, same, decide_true, Bool.true_and, induction]
        simp
        omega
      · simp only [found_update_of_ne same, same, decide_false, Bool.false_and, induction]
        simp
        omega

/-- No line of a text is accepted by a detector of the tool. -/
def Ignored (detectors : List Detector) (broken : Invocation) (output : String) : Prop :=
  ∀ detector ∈ detectors, detector.tool = broken →
    ∀ line ∈ lines output, detector.matcher.accepts line = false

theorem map_found_of_ignored (result : Invocation → ToolResult) (failure : Failure)
    (ignored : Ignored detectors broken output) :
    detectors.map (found (Function.update result broken (.ok output))) =
      detectors.map (found (Function.update result broken (.error failure))) := by
  refine List.map_congr_left fun detector member => ?_
  by_cases same : detector.tool = broken
  · rw [found_update_ok same (ignored detector member same), found_update_error same]
  · rw [found_update_of_ne same, found_update_of_ne same]

/-- A failure adds one event for each detector of the tool to the log of a text that is ignored. -/
theorem flatMap_told_of_ignored (ignored : Ignored detectors broken output) :
    detectors.flatMap (told (Function.update result broken (.error failure))) =
      detectors.flatMap fun detector =>
        (if detector.tool = broken then [detector.unavailable failure] else []) ++
          told (Function.update result broken (.ok output)) detector := by
  refine List.flatMap_congr fun detector member => ?_
  by_cases same : detector.tool = broken
  · rw [if_pos same, told_update_error same, told_update_ok same (ignored detector member same)]
    rfl
  · rw [if_neg same, told_update_of_ne same, told_update_of_ne same]
    rfl

theorem lacks_of_failure {before after : Run} (result : Invocation → ToolResult)
    (broken : Invocation) (failure : Failure)
    (before_eq : before.evidence = detectors.map (found result))
    (after_eq : after.evidence =
      detectors.map (found (Function.update result broken (.error failure)))) :
    after.Lacks before detectors broken := by
  have votes_eq := votes_found result broken failure detectors
  have lost_le : ((detectors.zip (detectors.map (found result))).countP fun known =>
      decide (known.1.tool = broken) && known.2.isPositive) ≤
        detectors.countP fun detector => detector.tool = broken := by
    rw [zip_map_found, List.countP_map]
    refine List.countP_mono_left fun detector _ counted => ?_
    exact (Bool.and_eq_true_iff.mp counted).1
  constructor
  case evidence =>
    rw [before_eq, after_eq, zip_map_found, List.forall₂_map_left_iff, List.forall₂_map_right_iff,
      List.forall₂_same]
    intro detector _
    by_cases same : detector.tool = broken
    · rw [if_pos same, found_update_error same]
    · rw [if_neg same, found_update_of_ne same]
  case length_eq => rw [before_eq, List.length_map]
  case positives_eq =>
    rw [before_eq, after_eq]
    exact votes_eq
  case confidence_le =>
    rw [before_eq, after_eq]
    refine Confidence.ofVotes_le ?_
    rw [votes_eq]
    exact Nat.le_add_right _ _
  case rank_le =>
    rw [before_eq, after_eq]
    change (Confidence.ofVotes _).rank ≤ (Confidence.ofVotes _).rank + _
    rw [votes_eq]
    exact Nat.le_trans (Confidence.rank_ofVotes_add_le _ _) (Nat.add_le_add_left lost_le _)

end Runner

theorem Detector.countP_allBuiltIn_le_one (invocation : Invocation) :
    (allBuiltIn.countP fun detector => detector.tool = invocation) ≤ 1 := by
  have distinct : (allBuiltIn.map (·.tool)).Nodup := by decide
  have count_le := List.nodup_iff_count_le_one.mp distinct invocation
  rw [List.count_eq_countP, List.countP_map] at count_le
  refine le_of_eq_of_le (List.countP_congr fun detector _ => ?_) count_le
  simp

open Runner

/-- When the result of one command line is replaced by a failure, whatever it says, the evidence of
its detectors becomes negative, all other evidence stays, and the verdict loses their votes. All
failures report the same, and so does every text that these detectors ignore. Beside such a text a
failure only adds an event for each of them to the log, before the end of the detector. Windows are
taken without overflow, as of styles that fit the text (`Style.Fits`). -/
theorem tool_failure_is_contained (runner : Runner) (binary : String) {start deadline : Instant}
    (positive : 0 < runner.timeoutSecs)
    (deadline_eq : deadline? start runner.timeoutSecs = some deadline)
    (result : Invocation → ToolResult) (broken : Invocation) (failure : Failure) :
    let runWith := fun replacement =>
      runner.run (Tools.scripted (Function.update result broken replacement)) binary start
    ∃ before after, runner.run (Tools.scripted result) binary start = .ok before ∧
      runWith (.error failure) = .ok after ∧ after.Lacks before runner.detectors broken ∧
      (∀ other, ∃ again, runWith (.error other) = .ok again ∧ again.Alike after) ∧
      (∀ output, Ignored runner.detectors broken output →
        ∃ quiet, runWith (.ok output) = .ok quiet ∧ quiet.Alike after ∧
          ∃ first last tells,
            (∀ detector ∈ runner.detectors, detector.tool = broken →
              tells detector = [finished (.negative detector.technique)]) ∧
            quiet.log = first :: runner.detectors.flatMap tells ++ [last] ∧
            after.log = first :: (runner.detectors.flatMap fun detector =>
              (if detector.tool = broken then [detector.unavailable failure] else []) ++
                tells detector) ++ [last]) ∧
      (∀ detector : Detector,
        detector.unavailable failure =
            { level := .debug
              origin := .detector
              message := "tool unavailable, no evidence"
              fields := [("technique", detector.technique.id), ("error", failure.message)] } ∧
          finished (.negative detector.technique) =
            { level := .debug
              origin := .runner
              message := "detector finished"
              fields := [("technique", detector.technique.id), ("positive", "false"),
                ("findings", "0")] }) ∧
      ∀ invocation, (Detector.allBuiltIn.countP fun detector => detector.tool = invocation) ≤ 1 := by
  intro runWith
  refine ⟨_, _, run_scripted positive deadline_eq, run_scripted positive deadline_eq, ?_, ?_, ?_,
    ?_, Detector.countP_allBuiltIn_le_one⟩
  · exact lacks_of_failure result broken failure rfl rfl
  · intro other
    refine ⟨_, run_scripted positive deadline_eq, Run.alike_of_evidence_eq ?_ rfl⟩
    refine List.map_congr_left fun detector _ => ?_
    by_cases same : detector.tool = broken
    · rw [found_update_error same, found_update_error same]
    · rw [found_update_of_ne same, found_update_of_ne same]
  · intro output ignored
    have evidence_eq := map_found_of_ignored result failure ignored
    refine ⟨_, run_scripted positive deadline_eq, Run.alike_of_evidence_eq evidence_eq rfl,
      runner.starting binary, _, told (Function.update result broken (.ok output)), ?_, rfl, ?_⟩
    · exact fun detector member same => told_update_ok same (ignored detector member same)
    · rw [flatMap_told_of_ignored ignored, evidence_eq]
  · exact fun detector => ⟨rfl, finished_negative detector.technique⟩

/-- Two of three detectors share the tool that cannot be started. The report is that of a tool that
prints a name without interest, and the log is longer by two events. -/
theorem tool_failure_is_contained_shared :
    let runner := Runner.mk [Detector.strings, Detector.allocator, Detector.strings] 30 false
    let result : Invocation → ToolResult := fun _ => .ok "__rust_alloc"
    let runWith := fun replacement =>
      runner.run (Tools.scripted (Function.update result ⟨"strings", []⟩ replacement)) "app" 0
    ∃ after quiet, runWith (.error (.spawn "strings" "not found")) = .ok after ∧
      runWith (.ok "libc") = .ok quiet ∧ quiet.Alike after ∧
      after.log.length = quiet.log.length + 2 := by
  intro runner result runWith
  have deadline_eq : deadline? 0 30 = some 30000 := rfl
  have ignored : Runner.Ignored runner.detectors ⟨"strings", []⟩ "libc" := by
    unfold Runner.Ignored
    decide +kernel
  obtain ⟨_, after, _, after_eq, _, _, texts, _, _⟩ := tool_failure_is_contained runner "app"
    (by decide) deadline_eq result ⟨"strings", []⟩ (.spawn "strings" "not found")
  obtain ⟨quiet, quiet_eq, alike, first, last, tells, _, quiet_log, after_log⟩ :=
    texts "libc" ignored
  refine ⟨after, quiet, after_eq, quiet_eq, alike, ?_⟩
  rw [after_log, quiet_log]
  simp [runner, Detector.strings, Detector.allocator]
  omega

end Toolmark
