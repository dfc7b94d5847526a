import Mathlib.Data.List.Forall2
import Toolmark.Proofs.Runner
import Toolmark.Proofs.Verdict

/-!
# What fits into a budget

All tools of a run share one deadline. In turn, the tools that end by it come before all others, and
nothing is started behind the first that does not. More time keeps all positive evidence, and so does
running the tools at the same time.
-/

namespace Toolmark

/-- A detector with what its tool does when nothing stops it. -/
structure Job where
  detector : Detector
  work : Work

/-- Positive evidence is found again. -/
def Evidence.Keeps (before after : Evidence) : Prop := before.isPositive = true → after = before

/-- A tool was stopped by the deadline, or came too late for it. -/
def Runner.Trial.TimedOut (trial : Runner.Trial) : Prop :=
  ∃ program, trial.attempt.result = .error (.timeout program)

namespace Job

open Runner

/-- The job of a detector among processes. -/
def ofWork (work : Invocation → String → Work) (binary : String) (detector : Detector) : Job :=
  ⟨detector, work detector.tool binary⟩

/-- What the detector finds when nothing stops its tool. -/
def truth (job : Job) : Evidence := job.detector.evaluate job.work.result

/-- What the detector finds when its tool is stopped. -/
def lost (job : Job) : Evidence := .negative job.detector.technique

/-- The tool is not stopped by anything but the deadline. -/
def Ends (job : Job) : Prop := ∀ program, job.work.result ≠ .error (.timeout program)

/-- The tool ends by the deadline if it is started at an instant before it. -/
def InTime (job : Job) (start deadline : Instant) : Prop :=
  start < deadline ∧ start + job.work.duration ≤ deadline

instance (job : Job) (start deadline : Instant) : Decidable (job.InTime start deadline) :=
  inferInstanceAs (Decidable (_ ∧ _))

/-- What the detector finds when its tool is started at an instant. -/
def evidence (job : Job) (start deadline : Instant) : Evidence :=
  if job.InTime start deadline then job.truth else job.lost

/-- The trial of a job that is begun at an instant. -/
def trial (job : Job) (binary : String) (start deadline : Instant) : Trial :=
  ⟨job.detector,
    (Tools.processes fun _ _ => job.work).attempt job.detector.tool binary start deadline⟩

/-- The trials of jobs, each begun when the one before is done. -/
def inTurn (binary : String) (deadline : Instant) : Instant → List Job → List Trial
  | _, [] => []
  | now, job :: rest =>
      let trial := job.trial binary now deadline
      trial :: inTurn binary deadline trial.attempt.finish rest

/-- The trials of jobs, all begun at the same instant. -/
def atOnce (binary : String) (deadline start : Instant) (jobs : List Job) : List Trial :=
  jobs.map fun job => job.trial binary start deadline

/-- The trials of jobs in one of the two modes. -/
def trials (sequential : Bool) (binary : String) (start deadline : Instant) (jobs : List Job) :
    List Trial :=
  if sequential then inTurn binary deadline start jobs else atOnce binary deadline start jobs

/-- The evidence of jobs in one of the two modes. -/
def outcome (sequential : Bool) (binary : String) (start deadline : Instant) (jobs : List Job) :
    List Evidence :=
  (trials sequential binary start deadline jobs).map Trial.evidence

variable {job : Job} {jobs : List Job} {binary : String} {now start deadline : Instant}

/-! ## One job -/

theorem attempt_inTime (binary : String) (inTime : job.InTime now deadline) :
    (job.trial binary now deadline).attempt.result = job.work.result ∧
      (job.trial binary now deadline).attempt.finish = now + job.work.duration := by
  obtain ⟨early, ends⟩ := inTime
  simp only [trial, Tools.processes, if_neg (Nat.not_le.mpr early), if_neg (Nat.not_lt.mpr ends),
    and_self]

theorem attempt_late (binary : String) (late : ¬ job.InTime now deadline) :
    (job.trial binary now deadline).TimedOut ∧
      deadline ≤ (job.trial binary now deadline).attempt.finish := by
  rw [InTime, not_and_or, Nat.not_lt, Nat.not_le] at late
  unfold Trial.TimedOut
  by_cases tooLate : deadline ≤ now
  · simp only [trial, Tools.processes, if_pos tooLate]
    exact ⟨⟨_, rfl⟩, tooLate⟩
  · have cut : deadline < now + job.work.duration := late.resolve_left tooLate
    simp only [trial, Tools.processes, if_neg tooLate, if_pos cut]
    exact ⟨⟨_, rfl⟩, Nat.le_refl deadline⟩

theorem not_inTime_of_le (job : Job) (late : deadline ≤ now) : ¬ job.InTime now deadline :=
  fun inTime => Nat.not_lt.mpr late inTime.1

/-- A tool that is stopped would not have left time to those behind it. -/
theorem le_add_of_not_inTime (late : ¬ job.InTime now deadline) :
    deadline ≤ now + job.work.duration := by
  by_contra fits
  have ends : now + job.work.duration < deadline := Nat.not_le.mp fits
  exact late ⟨Nat.lt_of_le_of_lt (Nat.le_add_right now _) ends, Nat.le_of_lt ends⟩

theorem spawned_late (job : Job) (binary : String) (late : deadline ≤ now) :
    (job.trial binary now deadline).attempt.spawned = false ∧
      (job.trial binary now deadline).attempt.finish = now := by
  simp only [trial, Tools.processes, if_pos late, and_self]

theorem evidence_trial (job : Job) (binary : String) (now deadline : Instant) :
    (job.trial binary now deadline).evidence = job.evidence now deadline := by
  unfold evidence
  by_cases inTime : job.InTime now deadline
  · obtain ⟨result_eq, _⟩ := attempt_inTime binary inTime
    rw [if_pos inTime, Trial.evidence, result_eq]
    rfl
  · obtain ⟨⟨program, result_eq⟩, _⟩ := attempt_late binary inTime
    rw [if_neg inTime, Trial.evidence, result_eq]
    rfl

theorem InTime.mono {earlier later : Instant} (inTime : job.InTime now deadline)
    (sooner : earlier ≤ now) (more : deadline ≤ later) : job.InTime earlier later := by
  obtain ⟨early, ends⟩ := inTime
  constructor
  · exact Nat.lt_of_le_of_lt sooner (Nat.lt_of_lt_of_le early more)
  · exact Nat.le_trans (Nat.add_le_add_right sooner _) (Nat.le_trans ends more)

theorem keeps_evidence (job : Job) {earlier later : Instant} (sooner : earlier ≤ now)
    (more : deadline ≤ later) :
    (job.evidence now deadline).Keeps (job.evidence earlier later) := by
  intro positive
  by_cases inTime : job.InTime now deadline
  · rw [evidence, evidence, if_pos inTime, if_pos (inTime.mono sooner more)]
  · rw [evidence, if_neg inTime] at positive
    nomatch positive

/-! ## Jobs in turn -/

/-- The jobs with the instants at which they begin in turn if nothing is stopped. -/
def begins : Instant → List Job → List (Job × Instant)
  | _, [] => []
  | now, job :: rest => (job, now) :: begins (now + job.work.duration) rest

theorem map_fst_begins (now : Instant) (jobs : List Job) : (begins now jobs).map Prod.fst = jobs := by
  induction jobs generalizing now with
  | nil => rfl
  | cons job rest induction => rw [begins, List.map_cons, induction]

theorem le_of_mem_begins {begun : Job × Instant} (member : begun ∈ begins now jobs) :
    now ≤ begun.2 := by
  induction jobs generalizing now with
  | nil => nomatch member
  | cons job rest induction =>
      rcases List.mem_cons.mp member with rfl | later
      · exact Nat.le_refl now
      · exact Nat.le_trans (Nat.le_add_right now job.work.duration) (induction later)

theorem map_begins_late (late : deadline ≤ now) (jobs : List Job) :
    (begins now jobs).map (fun begun => begun.1.evidence begun.2 deadline) = jobs.map lost := by
  induction jobs generalizing now with
  | nil => rfl
  | cons job rest induction =>
      have later := induction (Nat.le_trans late (Nat.le_add_right now job.work.duration))
      rw [begins, List.map_cons, List.map_cons, later, evidence, if_neg (job.not_inTime_of_le late)]

/-- In turn, the evidence is that of tools which begin as if none of them were stopped: behind one
that is stopped no other would be in time. -/
theorem evidence_inTurn (binary : String) (deadline now : Instant) (jobs : List Job) :
    (inTurn binary deadline now jobs).map Trial.evidence =
      (begins now jobs).map fun begun => begun.1.evidence begun.2 deadline := by
  induction jobs generalizing now with
  | nil => rfl
  | cons job rest induction =>
      rw [inTurn, begins, List.map_cons, List.map_cons, evidence_trial]
      by_cases inTime : job.InTime now deadline
      · obtain ⟨_, finish_eq⟩ := attempt_inTime binary inTime
        rw [finish_eq, induction]
      · -- The rest begins at the deadline and not where `begins` has it, but at both it is lost.
        obtain ⟨_, noTime⟩ := attempt_late binary inTime
        rw [induction, map_begins_late noTime, map_begins_late (le_add_of_not_inTime inTime)]

theorem inTurn_late (late : deadline ≤ now) (jobs : List Job) :
    ∀ trial ∈ inTurn binary deadline now jobs,
      trial.TimedOut ∧ trial.attempt.spawned = false := by
  induction jobs with
  | nil => simp [inTurn]
  | cons job rest induction =>
      obtain ⟨notSpawned, finish_eq⟩ := job.spawned_late binary late
      obtain ⟨timedOut, _⟩ := attempt_late binary (job.not_inTime_of_le late)
      rw [inTurn, finish_eq]
      exact List.forall_mem_cons.mpr ⟨⟨timedOut, notSpawned⟩, induction⟩

theorem pairwise_inTurn (binary : String) (deadline now : Instant)
    (ends : ∀ job ∈ jobs, job.Ends) :
    (inTurn binary deadline now jobs).Pairwise fun earlier later =>
      earlier.TimedOut → later.TimedOut ∧ later.attempt.spawned = false := by
  induction jobs generalizing now with
  | nil => exact .nil
  | cons job rest induction =>
      obtain ⟨jobEnds, restEnds⟩ := List.forall_mem_cons.mp ends
      refine List.pairwise_cons.mpr ⟨fun later member timedOut => ?_, induction _ restEnds⟩
      by_cases inTime : job.InTime now deadline
      · -- A job in time gives its own result, which is no timeout.
        obtain ⟨result_eq, _⟩ := attempt_inTime binary inTime
        obtain ⟨program, timeout_eq⟩ := timedOut
        exact absurd (result_eq.symm.trans timeout_eq) (jobEnds program)
      · obtain ⟨_, noTime⟩ := attempt_late binary inTime
        exact inTurn_late noTime rest later member

/-- In turn, the evidence is the true one of the first jobs, and the others are lost. -/
theorem exists_evidence_inTurn_eq (binary : String) (deadline now : Instant) (jobs : List Job) :
    ∃ count, (inTurn binary deadline now jobs).map Trial.evidence =
      (jobs.take count).map truth ++ (jobs.drop count).map lost := by
  rw [evidence_inTurn]
  induction jobs generalizing now with
  | nil => exact ⟨0, rfl⟩
  | cons job rest induction =>
      rw [begins, List.map_cons]
      by_cases inTime : job.InTime now deadline
      · obtain ⟨count, later⟩ := induction (now + job.work.duration)
        refine ⟨count + 1, ?_⟩
        rw [later, evidence, if_pos inTime]
        rfl
      · -- The first job that is stopped ends the true evidence.
        refine ⟨0, ?_⟩
        rw [map_begins_late (le_add_of_not_inTime inTime), evidence, if_neg inTime]
        rfl

/-! ## Comparisons -/

/-- Both modes give the evidence of tools that begin as if none of them were stopped. -/
theorem outcome_eq (sequential : Bool) (binary : String) (start deadline : Instant)
    (jobs : List Job) :
    outcome sequential binary start deadline jobs =
      (begins start jobs).map fun begun =>
        begun.1.evidence (if sequential then begun.2 else start) deadline := by
  cases sequential with
  | true => exact evidence_inTurn binary deadline start jobs
  | false =>
      conv_lhs => rw [← map_fst_begins start jobs]
      simp only [outcome, trials, atOnce, Bool.false_eq_true, if_false, List.map_map]
      exact List.map_congr_left fun begun _ => begun.1.evidence_trial binary start deadline

theorem keeps_of_le (sequential : Bool) (binary : String) (start : Instant) {later : Instant}
    (more : deadline ≤ later) (jobs : List Job) :
    List.Forall₂ Evidence.Keeps (outcome sequential binary start deadline jobs)
      (outcome sequential binary start later jobs) := by
  rw [outcome_eq, outcome_eq, List.forall₂_map_left_iff, List.forall₂_map_right_iff,
    List.forall₂_same]
  exact fun begun _ => begun.1.keeps_evidence (Nat.le_refl _) more

/-- What is found in turn is found at the same instant. -/
theorem keeps_atOnce (binary : String) (start deadline : Instant) (jobs : List Job) :
    List.Forall₂ Evidence.Keeps (outcome true binary start deadline jobs)
      (outcome false binary start deadline jobs) := by
  rw [outcome_eq, outcome_eq, List.forall₂_map_left_iff, List.forall₂_map_right_iff,
    List.forall₂_same]
  exact fun begun member =>
    begun.1.keeps_evidence (le_of_mem_begins member) (Nat.le_refl deadline)

/-- The time that jobs take in turn. -/
def total (jobs : List Job) : Nat := jobs.foldr (fun job rest => job.work.duration + rest) 0

theorem inTime_of_mem_begins (fits : now + total jobs < deadline) {begun : Job × Instant}
    (member : begun ∈ begins now jobs) : begun.1.InTime begun.2 deadline := by
  induction jobs generalizing now with
  | nil => nomatch member
  | cons job rest induction =>
      have fitsRest : now + job.work.duration + total rest < deadline := by
        rw [Nat.add_assoc]
        exact fits
      rcases List.mem_cons.mp member with rfl | later
      · have ends : now + job.work.duration < deadline :=
          Nat.lt_of_le_of_lt (Nat.le_add_right _ _) fitsRest
        exact ⟨Nat.lt_of_le_of_lt (Nat.le_add_right now _) ends, Nat.le_of_lt ends⟩
      · exact induction fitsRest later

theorem outcome_eq_truth (sequential : Bool) (binary : String)
    (fits : start + total jobs < deadline) :
    outcome sequential binary start deadline jobs = jobs.map truth := by
  rw [outcome_eq]
  conv_rhs => rw [← map_fst_begins start jobs, List.map_map]
  refine List.map_congr_left fun begun member => if_pos ?_
  have inTime := inTime_of_mem_begins fits member
  cases sequential with
  | true => exact inTime
  | false => exact inTime.mono (le_of_mem_begins member) (Nat.le_refl deadline)

/-! ## Runs -/

theorem trials_processes (runner : Runner) (work : Invocation → String → Work) (binary : String)
    (start deadline : Instant) :
    runner.trials (Tools.processes work) binary start deadline =
      trials runner.sequential binary start deadline
        (runner.detectors.map (ofWork work binary)) := by
  have inTurn_eq (detectors : List Detector) (now : Instant) :
      trialsInTurn (Tools.processes work) binary deadline now detectors =
        inTurn binary deadline now (detectors.map (ofWork work binary)) := by
    induction detectors generalizing now with
    | nil => rfl
    | cons detector rest induction =>
        rw [trialsInTurn, induction]
        rfl
  have atOnce_eq : trialsAtOnce (Tools.processes work) binary deadline start runner.detectors =
      atOnce binary deadline start (runner.detectors.map (ofWork work binary)) := by
    rw [atOnce, List.map_map]
    rfl
  rw [trials_eq, trials, inTurn_eq, atOnce_eq]

end Job

/-- A run asks its tools with one deadline only. -/
theorem Runner.run_congr {runner : Runner} {tools others : Tools} {binary : String}
    {start deadline : Instant} (deadline_eq : deadline? start runner.timeoutSecs = some deadline)
    (same : ∀ invocation now, tools.attempt invocation binary now deadline =
      others.attempt invocation binary now deadline) :
    runner.run tools binary start = runner.run others binary start := by
  have inTurn (detectors : List Detector) (now : Instant) :
      trialsInTurn tools binary deadline now detectors =
        trialsInTurn others binary deadline now detectors := by
    induction detectors generalizing now with
    | nil => rfl
    | cons detector rest induction => rw [trialsInTurn, trialsInTurn, same, induction]
  have trials_eq : runner.trials tools binary start deadline =
      runner.trials others binary start deadline := by
    simp only [Runner.trials_eq, trialsAtOnce, inTurn, same]
  simp only [run_eq deadline_eq, trials_eq]

theorem Verdict.confidence_le_of_keeps {before after : List Evidence}
    (keeps : List.Forall₂ Evidence.Keeps before after) :
    (ofEvidence before).confidence ≤ (ofEvidence after).confidence := by
  refine Confidence.ofVotes_le (votes_le_of_forall₂ (keeps.imp fun found kept keep positive => ?_))
  rw [keep positive]
  exact positive

/-- The tools of a run are asked with the one deadline that is set before the first of them starts.
A run of processes is the one of its jobs, of which each may have a duration and a result of its
own. In turn, nothing is started behind a job that timed out, so the true evidence of the first jobs
is followed by negative evidence. More time keeps all positive evidence, in both modes, and so does
starting all jobs at the same instant. With time for all jobs, the evidence is the true one. Windows
are taken without overflow, as of styles that fit the text (`Style.Fits`). -/
theorem shared_budget_law (binary : String) (start : Instant) :
    (∀ (runner : Runner) (deadline : Instant),
      deadline? start runner.timeoutSecs = some deadline →
        deadline = start + 1000 * runner.timeoutSecs ∧
          (∀ tools others : Tools,
            (∀ invocation now, tools.attempt invocation binary now deadline =
              others.attempt invocation binary now deadline) →
            runner.run tools binary start = runner.run others binary start) ∧
          ∀ work,
            let jobs := runner.detectors.map (Job.ofWork work binary)
            runner.trials (Tools.processes work) binary start deadline =
                Job.trials runner.sequential binary start deadline jobs ∧
              ∃ run, runner.run (Tools.processes work) binary start = .ok run ∧
                run.evidence = Job.outcome runner.sequential binary start deadline jobs) ∧
      ∀ (jobs : List Job) (deadline : Instant),
        ((∀ job ∈ jobs, job.Ends) →
          (Job.trials true binary start deadline jobs).Pairwise fun earlier later =>
            earlier.TimedOut → later.TimedOut ∧ later.attempt.spawned = false) ∧
        (∃ count, Job.outcome true binary start deadline jobs =
          (jobs.take count).map Job.truth ++ (jobs.drop count).map Job.lost) ∧
        (∀ sequential later, deadline ≤ later →
          let before := Job.outcome sequential binary start deadline jobs
          let after := Job.outcome sequential binary start later jobs
          List.Forall₂ Evidence.Keeps before after ∧
            (Verdict.ofEvidence before).confidence ≤ (Verdict.ofEvidence after).confidence) ∧
        List.Forall₂ Evidence.Keeps (Job.outcome true binary start deadline jobs)
          (Job.outcome false binary start deadline jobs) ∧
        ∀ sequential, start + Job.total jobs < deadline →
          Job.outcome sequential binary start deadline jobs = jobs.map Job.truth := by
  refine ⟨fun runner deadline deadline_eq => ⟨?_, ?_, ?_⟩, fun jobs deadline => ?_⟩
  · unfold deadline? at deadline_eq
    split at deadline_eq
    · exact (Option.some.inj deadline_eq).symm
    · nomatch deadline_eq
  · exact fun tools others same => Runner.run_congr deadline_eq same
  · intro work jobs
    have trials_eq := Job.trials_processes runner work binary start deadline
    refine ⟨trials_eq, ?_⟩
    simp only [Runner.run_eq deadline_eq, trials_eq, Except.ok.injEq, exists_eq_left']
    rfl
  · refine ⟨Job.pairwise_inTurn binary deadline start,
      Job.exists_evidence_inTurn_eq binary deadline start jobs, ?_,
      Job.keeps_atOnce binary start deadline jobs, ?_⟩
    · intro sequential later more before after
      have keeps := Job.keeps_of_le sequential binary start more jobs
      exact ⟨keeps, Verdict.confidence_le_of_keeps keeps⟩
    · exact fun sequential fits => Job.outcome_eq_truth sequential binary fits

/-- Three jobs, of which two have one command line and the second takes the most time. -/
def unevenJobs : List Job :=
  [⟨Detector.strings, ⟨10, .ok "rustc"⟩⟩, ⟨Detector.strings, ⟨40000, .ok "cargo"⟩⟩,
    ⟨Detector.allocator, ⟨10, .error (.failed "nm" "exit status: 1")⟩⟩]

/-- With 30 seconds nothing is started behind the second job, and what is found is found again with
60 seconds, where all evidence is true. -/
theorem shared_budget_law_uneven :
    ((Job.trials true "app" 0 30000 unevenJobs).Pairwise fun earlier later =>
        earlier.TimedOut → later.TimedOut ∧ later.attempt.spawned = false) ∧
      List.Forall₂ Evidence.Keeps (Job.outcome true "app" 0 30000 unevenJobs)
        (Job.outcome true "app" 0 60000 unevenJobs) ∧
      Job.outcome true "app" 0 60000 unevenJobs = unevenJobs.map Job.truth ∧
      ∀ work, ∃ run, (Runner.mk Detector.allBuiltIn 30 true).run (Tools.processes work) "app" 0 =
        .ok run := by
  obtain ⟨runs, jobs⟩ := shared_budget_law "app" 0
  have ends : ∀ job ∈ unevenJobs, job.Ends := by simp [unevenJobs, Job.Ends]
  obtain ⟨stopped, _, enlarged, _, _⟩ := jobs unevenJobs 30000
  obtain ⟨_, _, _, _, complete⟩ := jobs unevenJobs 60000
  refine ⟨stopped ends, (enlarged true 60000 (by decide)).1, complete true (by decide), ?_⟩
  have deadline_eq : deadline? 0 30 = some 30000 := rfl
  intro work
  obtain ⟨_, _, processes⟩ := runs (Runner.mk Detector.allBuiltIn 30 true) 30000 deadline_eq
  obtain ⟨_, run, run_eq, _⟩ := processes work
  exact ⟨run, run_eq⟩

end Toolmark
