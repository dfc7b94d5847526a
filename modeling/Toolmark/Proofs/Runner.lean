import Mathlib.Data.List.Basic
import Toolmark.Runner

/-!
# What a run returns

Both modes try the tool of each detector once, in the order of the detectors, and the evidence of a
run is what the detectors find in the results.
-/

namespace Toolmark

namespace Runner

variable {runner : Runner} {tools : Tools} {binary : String} {start deadline : Instant}
  {result : Invocation → ToolResult}

/-! ## Trials -/

/-- The trials of all detectors of a runner. -/
def trials (runner : Runner) (tools : Tools) (binary : String) (start deadline : Instant) :
    List Trial :=
  ((runner.tryAll tools binary start deadline).run []).1

/-- The trials of detectors, each begun when the one before is done. -/
def trialsInTurn (tools : Tools) (binary : String) (deadline : Instant) :
    Instant → List Detector → List Trial
  | _, [] => []
  | now, detector :: rest =>
      let attempt := tools.attempt detector.tool binary now deadline
      ⟨detector, attempt⟩ :: trialsInTurn tools binary deadline attempt.finish rest

/-- The trials of detectors, all begun at the same instant. -/
def trialsAtOnce (tools : Tools) (binary : String) (deadline start : Instant)
    (detectors : List Detector) : List Trial :=
  detectors.map fun detector => ⟨detector, tools.attempt detector.tool binary start deadline⟩

theorem Recorded.run_bind {α β : Type} (work : Recorded α) (next : α → Recorded β)
    (calls : List Invocation) :
    (work >>= next).run calls = (next (work.run calls).1).run (work.run calls).2 :=
  rfl

theorem Recorded.run_pure {α : Type} (value : α) (calls : List Invocation) :
    (pure value : Recorded α).run calls = (value, calls) :=
  rfl

theorem run_tryTool (tools : Tools) (binary : String) (deadline now : Instant)
    (detector : Detector) (calls : List Invocation) :
    (tryTool tools binary deadline now detector).run calls =
      (⟨detector, tools.attempt detector.tool binary now deadline⟩, calls ++ [detector.tool]) :=
  rfl

theorem run_tryInTurn (tools : Tools) (binary : String) (deadline now : Instant)
    (detectors : List Detector) (calls : List Invocation) :
    (tryInTurn tools binary deadline now detectors).run calls =
      (trialsInTurn tools binary deadline now detectors, calls ++ detectors.map (·.tool)) := by
  -- The record grows from its end, so the induction is on every record kept before.
  induction detectors generalizing now calls with
  | nil => rw [tryInTurn, Recorded.run_pure, trialsInTurn, List.map_nil, List.append_nil]
  | cons detector rest induction =>
      simp only [tryInTurn, Recorded.run_bind, run_tryTool, induction, Recorded.run_pure,
        trialsInTurn, List.map_cons, List.append_assoc, List.singleton_append]

theorem run_tryAtOnce (tools : Tools) (binary : String) (deadline start : Instant)
    (detectors : List Detector) (calls : List Invocation) :
    (tryAtOnce tools binary deadline start detectors).run calls =
      (trialsAtOnce tools binary deadline start detectors, calls ++ detectors.map (·.tool)) := by
  unfold tryAtOnce trialsAtOnce
  induction detectors generalizing calls with
  | nil => rw [List.mapM_nil, Recorded.run_pure, List.map_nil, List.map_nil, List.append_nil]
  | cons detector rest induction =>
      simp only [List.mapM_cons, Recorded.run_bind, run_tryTool, induction, Recorded.run_pure,
        List.map_cons, List.append_assoc, List.singleton_append]

theorem trials_eq (runner : Runner) (tools : Tools) (binary : String) (start deadline : Instant) :
    runner.trials tools binary start deadline =
      if runner.sequential then trialsInTurn tools binary deadline start runner.detectors
      else trialsAtOnce tools binary deadline start runner.detectors := by
  unfold trials tryAll
  split
  · rw [run_tryInTurn]
  · rw [run_tryAtOnce]

/-- In both modes the command line of every detector is tried once, in its place. -/
theorem run_tryAll (runner : Runner) (tools : Tools) (binary : String) (start deadline : Instant) :
    (runner.tryAll tools binary start deadline).run [] =
      (runner.trials tools binary start deadline, runner.detectors.map (·.tool)) := by
  rw [trials_eq]
  unfold tryAll
  split
  · rw [run_tryInTurn, List.nil_append]
  · rw [run_tryAtOnce, List.nil_append]

theorem detectors_trialsInTurn (tools : Tools) (binary : String) (deadline now : Instant)
    (detectors : List Detector) :
    (trialsInTurn tools binary deadline now detectors).map (·.detector) = detectors := by
  induction detectors generalizing now with
  | nil => rfl
  | cons detector rest induction => simp [trialsInTurn, induction]

theorem detectors_trials (runner : Runner) (tools : Tools) (binary : String)
    (start deadline : Instant) :
    (runner.trials tools binary start deadline).map (·.detector) = runner.detectors := by
  rw [trials_eq]
  split
  · exact detectors_trialsInTurn tools binary deadline start runner.detectors
  · simp [trialsAtOnce, Function.comp_def]

theorem run_eq (deadline_eq : deadline? start runner.timeoutSecs = some deadline) :
    runner.run tools binary start =
      let trials := runner.trials tools binary start deadline
      let evidence := trials.map Trial.evidence
      let log := if runner.sequential then logInTurn trials else logAtOnce start trials
      .ok
        { evidence := evidence
          calls := runner.detectors.map (·.tool)
          log := runner.starting binary :: log ++ [concluding evidence] } := by
  simp only [Runner.run, deadline_eq, run_tryAll]

/-- A run that began has a deadline, and the evidence of its trials. -/
theorem exists_deadline {run : Run} (began : runner.run tools binary start = .ok run) :
    ∃ deadline, deadline? start runner.timeoutSecs = some deadline ∧
      run.evidence = (runner.trials tools binary start deadline).map Trial.evidence := by
  cases deadline_eq : deadline? start runner.timeoutSecs with
  | none => simp only [Runner.run, deadline_eq, reduceCtorEq] at began
  | some deadline =>
      obtain rfl := Except.ok.inj ((run_eq deadline_eq).symm.trans began)
      exact ⟨deadline, rfl, rfl⟩

/-- In a run, every tool gives the result assigned to its command line. -/
def Receives (runner : Runner) (tools : Tools) (binary : String) (start deadline : Instant)
    (result : Invocation → ToolResult) : Prop :=
  ∀ trial ∈ runner.trials tools binary start deadline,
    trial.attempt.result = result trial.detector.tool

/-- Each detector evaluates the result of its own tool. -/
theorem evidence_trials (receives : runner.Receives tools binary start deadline result) :
    (runner.trials tools binary start deadline).map Trial.evidence =
      runner.detectors.map fun detector => detector.evaluate (result detector.tool) := by
  rw [← detectors_trials runner tools binary start deadline, List.map_map]
  refine List.map_congr_left fun trial member => ?_
  simp only [Trial.evidence, Function.comp_apply, receives trial member]

/-- A run whose deadline the clock can show returns what the detectors find. -/
theorem exists_run_of_receives (receives : runner.Receives tools binary start deadline result)
    (deadline_eq : deadline? start runner.timeoutSecs = some deadline) :
    ∃ run, runner.run tools binary start = .ok run ∧
      run.evidence = (runner.detectors.map fun detector =>
        detector.evaluate (result detector.tool)) ∧
      run.calls = runner.detectors.map (·.tool) := by
  simp only [run_eq deadline_eq, Except.ok.injEq, exists_eq_left', evidence_trials receives,
    and_self]

/-- Tools give the results assigned to them in a run if they do so at some instants, among which are
the first one and, with each, the one at which a tool begun then ends. -/
theorem receives_of_instants (instants : Instant → Prop) (first : instants start)
    (fixed : ∀ invocation now, instants now →
      (tools.attempt invocation binary now deadline).result = result invocation ∧
        instants (tools.attempt invocation binary now deadline).finish) :
    runner.Receives tools binary start deadline result := by
  have inTurn (detectors : List Detector) (now : Instant) (reached : instants now) :
      ∀ trial ∈ trialsInTurn tools binary deadline now detectors,
        trial.attempt.result = result trial.detector.tool := by
    induction detectors generalizing now with
    | nil => simp [trialsInTurn]
    | cons detector rest induction =>
        obtain ⟨result_eq, next⟩ := fixed detector.tool now reached
        intro trial member
        rcases List.mem_cons.mp member with rfl | later
        · exact result_eq
        · exact induction _ next trial later
  unfold Receives
  rw [trials_eq]
  split
  · exact inTurn runner.detectors start first
  · intro trial member
    obtain ⟨detector, _, rfl⟩ := List.mem_map.mp member
    exact (fixed detector.tool start first).1

theorem lt_deadline {seconds : Nat} (positive : 0 < seconds)
    (deadline_eq : deadline? start seconds = some deadline) : start < deadline := by
  unfold deadline? at deadline_eq
  split at deadline_eq
  · rw [← Option.some.inj deadline_eq]
    exact Nat.lt_add_of_pos_right (Nat.mul_pos (by decide) positive)
  · nomatch deadline_eq

/-! ## Scripted tools -/

/-- What a detector finds in the result of its tool. -/
def found (result : Invocation → ToolResult) (detector : Detector) : Evidence :=
  detector.evaluate (result detector.tool)

/-- What a detector tells about the result of its tool. -/
def told (result : Invocation → ToolResult) (detector : Detector) : List Event :=
  detector.evaluationLog (result detector.tool) ++ [finished (found result detector)]

/-- The trial of a detector whose tool is scripted and begun in time. -/
private def scriptedTrial (result : Invocation → ToolResult) (now : Instant)
    (detector : Detector) : Trial :=
  ⟨detector, ⟨result detector.tool, false, [], now⟩⟩

theorem attempt_scripted (early : start < deadline) (invocation : Invocation) :
    (Tools.scripted result).attempt invocation binary start deadline =
      ⟨result invocation, false, [], start⟩ := by
  simp only [Tools.scripted, if_neg (Nat.not_le.mpr early)]

private theorem trials_scripted (early : start < deadline) :
    runner.trials (Tools.scripted result) binary start deadline =
      runner.detectors.map (scriptedTrial result start) := by
  have inTurn (detectors : List Detector) :
      trialsInTurn (Tools.scripted result) binary deadline start detectors =
        detectors.map (scriptedTrial result start) := by
    induction detectors with
    | nil => rfl
    | cons detector rest induction =>
        rw [trialsInTurn, attempt_scripted early, List.map_cons]
        exact congrArg _ induction
  rw [trials_eq]
  split
  · exact inTurn runner.detectors
  · simp only [trialsAtOnce, attempt_scripted early]
    rfl

private theorem log_scripted (result : Invocation → ToolResult) (start : Instant)
    (detectors : List Detector) :
    logInTurn (detectors.map (scriptedTrial result start)) = detectors.flatMap (told result) ∧
      logAtOnce start (detectors.map (scriptedTrial result start)) =
        detectors.flatMap (told result) := by
  -- Every result is known at the start, so no conclusion is left for later.
  have noneLater : (detectors.map (scriptedTrial result start)).filter
      (fun trial => start < trial.attempt.finish) = [] := by
    simp [scriptedTrial]
  constructor
  · rw [logInTurn, List.flatMap_map]
    rfl
  · rw [logAtOnce, noneLater, List.mergeSort_nil, List.flatMap_nil, List.append_nil,
      List.flatMap_map]
    refine List.flatMap_congr fun detector _ => ?_
    have known : (scriptedTrial result start detector).attempt.finish ≤ start := Nat.le_refl start
    rw [if_pos known]
    rfl

/-- A run of scripted tools with time gives what the detectors find in their results, and tells so
in the order of the detectors. -/
theorem run_scripted (positive : 0 < runner.timeoutSecs)
    (deadline_eq : deadline? start runner.timeoutSecs = some deadline) :
    runner.run (Tools.scripted result) binary start =
      .ok
        { evidence := runner.detectors.map (found result)
          calls := runner.detectors.map (·.tool)
          log := runner.starting binary :: runner.detectors.flatMap (told result) ++
            [concluding (runner.detectors.map (found result))] } := by
  have evidence_eq : (runner.detectors.map (scriptedTrial result start)).map Trial.evidence =
      runner.detectors.map (found result) := by
    rw [List.map_map]
    rfl
  obtain ⟨inTurn, atOnce⟩ := log_scripted result start runner.detectors
  simp only [run_eq deadline_eq, trials_scripted (lt_deadline positive deadline_eq), evidence_eq,
    inTurn, atOnce, ite_self]

theorem receives_scripted (positive : 0 < runner.timeoutSecs)
    (deadline_eq : deadline? start runner.timeoutSecs = some deadline) :
    runner.Receives (Tools.scripted result) binary start deadline result :=
  receives_of_instants (· < deadline) (lt_deadline positive deadline_eq) fun _ _ early =>
    ⟨if_neg (Nat.not_le.mpr early), early⟩

end Runner

end Toolmark
