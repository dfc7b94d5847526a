import Toolmark.Proofs.CommandLine
import Toolmark.Proofs.Runner.Clock

/-!
# Budgets and the clock

A run needs one instant, its deadline. The checks of options and configurations know no greatest
budget, but the clock has a last second: a run with a budget that reaches beyond it does not begin.
Every other run gives evidence for each detector.
-/

namespace Toolmark

@[simp]
theorem Detector.technique_evaluate (detector : Detector) (result : ToolResult) :
    (detector.evaluate result).technique = detector.technique := by
  cases result <;> rfl

namespace Runner

variable {runner : Runner} {tools : Tools} {binary : String} {start : Instant}

theorem fits_iff : runner.Fits start ↔ start / 1000 + runner.timeoutSecs ≤ clockLimit := by
  unfold Fits deadline?
  split
  case isTrue shown => exact iff_of_true rfl shown
  case isFalse late => exact iff_of_false Bool.false_ne_true late

theorem run_of_not_fits (unfit : ¬ runner.Fits start) (tools : Tools) (binary : String) :
    runner.run tools binary start = .error .deadlineOverflow := by
  have no_deadline : deadline? start runner.timeoutSecs = none :=
    Option.not_isSome_iff_eq_none.mp unfit
  simp only [Runner.run, no_deadline]

/-- Whatever the tools do, each detector gives one piece of evidence for its technique. -/
theorem forall₂_evidence {run : Run} (began : runner.run tools binary start = .ok run) :
    List.Forall₂ (fun detector evidence => evidence.technique = detector.technique)
      runner.detectors run.evidence := by
  obtain ⟨deadline, -, evidence_eq⟩ := exists_deadline began
  rw [evidence_eq, ← detectors_trials runner tools binary start deadline,
    List.forall₂_map_left_iff, List.forall₂_map_right_iff, List.forall₂_same]
  exact fun trial _ => trial.detector.technique_evaluate trial.attempt.result

end Runner

namespace CommandLine

variable {options : Options} {files : Files} {path : String} {format : Format} {config : Config}
  {start : Instant} {reasons : Reasons}

theorem run_of_late_deadline (accepted : options.Accepted files path format config)
    (late : clockLimit < start / 1000 + options.budget config) (tools : Tools) (color : Bool)
    (sink : Sink) :
    run reasons options files tools start color sink = ⟨.notRun .deadlineOverflow, sink, [], []⟩ := by
  obtain ⟨detectors, -, request_eq⟩ := Request.ofOptions_accepted accepted
  have unfit : ¬ (Runner.mk detectors (options.budget config) options.sequential).Fits start :=
    fun fits => Nat.not_le.mpr late (Runner.fits_iff.mp fits)
  simp only [run, request_eq, perform, Request.runner, Runner.run_of_not_fits unfit]

theorem ending_ne_notRun (accepted : options.Accepted files path format config)
    (shown : start / 1000 + options.budget config ≤ clockLimit) (tools : Tools) (color : Bool)
    (sink : Sink) (error : RunError) :
    (run reasons options files tools start color sink).ending ≠ .notRun error := by
  obtain ⟨detectors, -, request_eq⟩ := Request.ofOptions_accepted accepted
  have fits : (Runner.mk detectors (options.budget config) options.sequential).Fits start :=
    Runner.fits_iff.mpr shown
  obtain ⟨run, run_eq⟩ := Runner.exists_run_of_fits fits tools path
  simp only [CommandLine.run, request_eq, perform, Request.runner, run_eq, write]
  split <;> exact Ending.noConfusion

end CommandLine

/-- A run gives one piece of evidence for each detector if its deadline is an instant of the clock,
and does not begin otherwise. So it is with the budget of accepted options, whether they name one or
their configuration does: they fail exactly if the clock ends before their deadline, and then
nothing is run, logged or written. Windows are taken without overflow, as of styles that fit the
text (`Style.Fits`). -/
theorem run_begins_if_deadline_is_shown (tools : Tools) (start : Instant) :
    (∀ (runner : Runner) (binary : String),
      (start / 1000 + runner.timeoutSecs ≤ clockLimit →
        ∃ run, runner.run tools binary start = .ok run ∧
          List.Forall₂ (fun detector evidence => evidence.technique = detector.technique)
            runner.detectors run.evidence) ∧
      (clockLimit < start / 1000 + runner.timeoutSecs →
        runner.run tools binary start = .error .deadlineOverflow)) ∧
      ∀ (reasons : Reasons) (options : Options) (files : Files) (path : String) (format : Format)
        (config : Config) (color : Bool) (sink : Sink), options.Accepted files path format config →
        let outcome := CommandLine.run reasons options files tools start color sink
        (clockLimit < start / 1000 + options.budget config →
          outcome = ⟨.notRun .deadlineOverflow, sink, [], []⟩) ∧
        (start / 1000 + options.budget config ≤ clockLimit →
          ∀ error, outcome.ending ≠ .notRun error) := by
  refine ⟨fun runner binary => ⟨fun shown => ?_, fun late => ?_⟩, ?_⟩
  · obtain ⟨run, run_eq⟩ := Runner.exists_run_of_fits (Runner.fits_iff.mpr shown) tools binary
    exact ⟨run, run_eq, Runner.forall₂_evidence run_eq⟩
  · exact Runner.run_of_not_fits (fun fits => Nat.not_le.mpr late (Runner.fits_iff.mp fits)) _ _
  · intro reasons options files path format config color sink accepted outcome
    exact ⟨fun late => CommandLine.run_of_late_deadline accepted late tools color sink,
      fun shown => CommandLine.ending_ne_notRun accepted shown tools color sink⟩

/-- Options with a budget in seconds. -/
def budgetedOptions (seconds : Nat) : Options := { cappedOptions with timeoutSecs := some seconds }

/-- A run that ends in the last second of the clock begins, and one that would end in the next
second does not. -/
theorem run_begins_if_deadline_is_shown_edge :
    let tools := Tools.scripted fun _ => .ok "rustc"
    let runner : Runner := { Runner.initial with timeoutSecs := clockLimit - 7 }
    7999 / 1000 + runner.timeoutSecs ≤ clockLimit ∧
      (∃ run, runner.run tools "app" 7999 = .ok run ∧ run.evidence.length = 5) ∧
      clockLimit < 8000 / 1000 + runner.timeoutSecs ∧
      runner.run tools "app" 8000 = .error .deadlineOverflow ∧
      (budgetedOptions (clockLimit - 7)).Accepted cappedFiles "app" .json cappedConfig ∧
      CommandLine.run ⟨id, id⟩ (budgetedOptions (clockLimit - 7)) cappedFiles tools 8000 false
        (Sink.empty none) = ⟨.notRun .deadlineOverflow, Sink.empty none, [], []⟩ := by
  intro tools runner
  have shown : 7999 / 1000 + runner.timeoutSecs ≤ clockLimit := by decide
  have late : clockLimit < 8000 / 1000 + runner.timeoutSecs := by decide
  have accepted :
      (budgetedOptions (clockLimit - 7)).Accepted cappedFiles "app" .json cappedConfig :=
    ⟨rfl, .json, rfl, .file rfl cappedFiles_read, rfl⟩
  obtain ⟨early, -⟩ := run_begins_if_deadline_is_shown tools 7999
  obtain ⟨beyond, requests⟩ := run_begins_if_deadline_is_shown tools 8000
  obtain ⟨run, run_eq, evidence⟩ := (early runner "app").1 shown
  exact ⟨shown, ⟨run, run_eq, evidence.length_eq.symm⟩, late, (beyond runner "app").2 late,
    accepted, (requests _ _ _ _ _ _ false (Sink.empty none) accepted).1 late⟩

/-- The greatest number of seconds that can be asked for is accepted on the command line and in a
configuration, and no run with it begins, whenever it is started. -/
theorem greatest_budget_never_begins :
    Options.ofArguments ["app", "-t", "18446744073709551615"] =
        .ok ⟨some "app", "pretty", some 0xffffffffffffffff, none, false⟩ ∧
      (Config.mk (some 0xffffffffffffffff) Overrides.empty).validate = .ok () ∧
      ∀ (tools : Tools) (binary : String) (start : Instant),
        Runner.run { Runner.initial with timeoutSecs := 0xffffffffffffffff } tools binary start =
          .error .deadlineOverflow := by
  refine ⟨by decide +kernel, rfl, fun tools binary start => ?_⟩
  refine Runner.run_of_not_fits (fun fits => ?_) tools binary
  have shown : start / 1000 + 0xffffffffffffffff ≤ clockLimit := Runner.fits_iff.mp fits
  exact absurd (Nat.le_trans (Nat.le_add_left _ _) shown) (by decide)

end Toolmark
