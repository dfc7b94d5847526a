import Mathlib.Data.List.Basic
import Toolmark.Proofs.Runner

/-!
# Runs at other instants

Tools are steady when it makes no difference at which instant they are started, as long as they are
left the same time. With such tools a run only depends on the settings and on the binary: begun at
any other instant whose deadline the clock can show, it gives the same evidence, the same calls and
the same log.
-/

namespace Toolmark

/-- The same attempt some time later. -/
def Attempt.delay (shift : Nat) (attempt : Attempt) : Attempt :=
  { attempt with finish := attempt.finish + shift }

namespace Tools

/-- What comes of a tool does not depend on the instant at which it is started, but at most on the
time that is left. -/
def Steady (tools : Tools) : Prop :=
  ∀ invocation binary start deadline shift,
    tools.attempt invocation binary (start + shift) (deadline + shift) =
      (tools.attempt invocation binary start deadline).delay shift

theorem steady_scripted (result : Invocation → ToolResult) : (scripted result).Steady := by
  intro invocation binary start deadline shift
  simp [scripted, Attempt.delay]

theorem steady_processes (work : Invocation → String → Work) : (processes work).Steady := by
  intro invocation binary start deadline shift
  simp only [processes, Nat.add_le_add_iff_right, Nat.add_right_comm start shift,
    Nat.add_lt_add_iff_right]
  split
  · rfl
  · split <;> rfl

end Tools

namespace Runner

variable {runner : Runner} {tools : Tools} {binary : String} {start deadline : Instant}

/-! ## Trials -/

/-- The same trial some time later. -/
def Trial.delay (shift : Nat) (trial : Trial) : Trial :=
  { trial with attempt := trial.attempt.delay shift }

theorem trialsInTurn_delay (steady : tools.Steady) (shift : Nat) (now : Instant)
    (detectors : List Detector) :
    trialsInTurn tools binary (deadline + shift) (now + shift) detectors =
      (trialsInTurn tools binary deadline now detectors).map (Trial.delay shift) := by
  induction detectors generalizing now with
  | nil => rfl
  | cons detector rest induction =>
      rw [trialsInTurn, trialsInTurn, List.map_cons, ← induction, steady]
      rfl

theorem trials_delay (steady : tools.Steady) (shift : Nat) :
    runner.trials tools binary (start + shift) (deadline + shift) =
      (runner.trials tools binary start deadline).map (Trial.delay shift) := by
  rw [trials_eq, trials_eq]
  split
  · exact trialsInTurn_delay steady shift start runner.detectors
  · simp only [trialsAtOnce, List.map_map, steady _ _ _ _ shift]
    rfl

/-! ## Logs -/

theorem logInTurn_delay (shift : Nat) (trials : List Trial) :
    logInTurn (trials.map (Trial.delay shift)) = logInTurn trials := by
  rw [logInTurn, List.flatMap_map]
  rfl

theorem logAtOnce_delay (shift : Nat) (trials : List Trial) :
    logAtOnce (start + shift) (trials.map (Trial.delay shift)) = logAtOnce start trials := by
  have late_iff (trial : Trial) :
      start + shift < (trial.delay shift).attempt.finish ↔ start < trial.attempt.finish :=
    Nat.add_lt_add_iff_right
  have early_iff (trial : Trial) :
      (trial.delay shift).attempt.finish ≤ start + shift ↔ trial.attempt.finish ≤ start :=
    Nat.add_le_add_iff_right
  have later : ((trials.map (Trial.delay shift)).filter
        fun trial => start + shift < trial.attempt.finish) =
      (trials.filter fun trial => start < trial.attempt.finish).map (Trial.delay shift) := by
    simp only [List.filter_map, Function.comp_def, late_iff]
  -- The order in which results become known is that of the instants, which all move alike.
  have sorted (late : List Trial) :
      (late.map (Trial.delay shift)).mergeSort
          (fun left right => left.attempt.finish ≤ right.attempt.finish) =
        (late.mergeSort fun left right => left.attempt.finish ≤ right.attempt.finish).map
          (Trial.delay shift) := by
    refine (List.map_mergeSort fun left _ right _ => ?_).symm
    simp [Trial.delay, Attempt.delay]
  simp only [logAtOnce, later, sorted, List.flatMap_map, early_iff]
  rfl

/-! ## Runs -/

/-- The clock can show the deadline of a run that is begun at an instant. -/
def Fits (runner : Runner) (start : Instant) : Prop :=
  (deadline? start runner.timeoutSecs).isSome = true

instance (runner : Runner) (start : Instant) : Decidable (runner.Fits start) :=
  inferInstanceAs (Decidable (_ = true))

theorem exists_deadline_of_fits_add {shift : Nat} (fits : runner.Fits (start + shift)) :
    ∃ deadline, deadline? start runner.timeoutSecs = some deadline ∧
      deadline? (start + shift) runner.timeoutSecs = some (deadline + shift) := by
  unfold Fits deadline? at fits
  by_cases shown : (start + shift) / 1000 + runner.timeoutSecs ≤ clockLimit
  · have earlier : start / 1000 + runner.timeoutSecs ≤ clockLimit :=
      Nat.le_trans (Nat.add_le_add_right (Nat.div_le_div_right (Nat.le_add_right _ _)) _) shown
    refine ⟨start + 1000 * runner.timeoutSecs, if_pos earlier, ?_⟩
    rw [deadline?, if_pos shown, Nat.add_right_comm]
  · rw [if_neg shown] at fits
    nomatch fits

theorem run_add (steady : tools.Steady) {shift : Nat} (fits : runner.Fits (start + shift)) :
    runner.run tools binary (start + shift) = runner.run tools binary start := by
  obtain ⟨deadline, deadline_eq, later_eq⟩ := exists_deadline_of_fits_add fits
  have evidence_eq (trials : List Trial) :
      (trials.map (Trial.delay shift)).map Trial.evidence = trials.map Trial.evidence := by
    rw [List.map_map]
    rfl
  simp only [run_eq deadline_eq, run_eq later_eq, trials_delay steady, evidence_eq,
    logInTurn_delay, logAtOnce_delay]

theorem run_eq_of_fits (steady : tools.Steady) {again : Instant} (fits : runner.Fits start)
    (fitsAgain : runner.Fits again) :
    runner.run tools binary start = runner.run tools binary again := by
  rcases Nat.le_total start again with earlier | later
  · obtain ⟨shift, rfl⟩ := Nat.exists_eq_add_of_le earlier
    exact (run_add steady fitsAgain).symm
  · obtain ⟨shift, rfl⟩ := Nat.exists_eq_add_of_le later
    exact run_add steady fits

theorem exists_run_of_fits (fits : runner.Fits start) (tools : Tools) (binary : String) :
    ∃ run, runner.run tools binary start = .ok run := by
  obtain ⟨deadline, deadline_eq⟩ := Option.isSome_iff_exists.mp fits
  exact ⟨_, run_eq deadline_eq⟩

end Runner

end Toolmark
