import Toolmark.CommandLine
import Toolmark.Proofs.Config
import Toolmark.Proofs.Detector
import Toolmark.Proofs.Report.Text
import Toolmark.Proofs.Runner

/-!
# What a run on a request reports

Options that pass all checks give a request for the five detectors in force. The run tries the tool
of each, reports what the detectors find in the results, and exits with success whatever that is.
-/

namespace Toolmark

/-- The names of the forms of the report. -/
inductive Format.Named : Format → String → Prop where
  | pretty : Named .pretty "pretty"
  | json : Named .json "json"

/-- The options name a file that gives a configuration, or none and the default one is in force. -/
inductive Options.Configures (options : Options) (files : Files) : Config → Prop where
  | default (unnamed : options.fingerprints = none) : Configures options files Config.default
  | file {path : String} {config : Config} (named : options.fingerprints = some path)
      (read : Config.ofFile (files.read path) = .ok config) : Configures options files config

/-- Options pass all checks that are made before a tool is run. -/
structure Options.Accepted (options : Options) (files : Files) (path : String) (format : Format)
    (config : Config) : Prop where
  /-- A binary is named. -/
  path_eq : options.binaryPath = some path
  /-- The form of the report is known. -/
  known : format.Named options.format
  /-- The binary exists. -/
  binary_exists : files.exists? path = true
  /-- No configuration is named, or the file gives one. -/
  configures : options.Configures files config
  /-- The configuration is valid. -/
  valid : config.validate = .ok ()

/-- The seconds that all tools share: those of the options, or else those of the configuration, or
else thirty. -/
def Options.budget (options : Options) (config : Config) : Nat :=
  (options.timeoutSecs.orElse fun _ => config.timeoutSecs).getD 30

section

variable {options : Options} {files : Files} {path : String} {format : Format} {config : Config}

theorem Format.ofName?_eq_some_iff {name : String} :
    ofName? name = some format ↔ format.Named name := by
  constructor
  · intro named
    unfold ofName? at named
    split at named
    · obtain rfl := Option.some.inj named
      exact .pretty
    · obtain rfl := Option.some.inj named
      exact .json
    · nomatch named
  · rintro (_ | _) <;> rfl

theorem Options.Configures.config_eq (configures : options.Configures files config) :
    Request.config files options.fingerprints = .ok config := by
  cases configures with
  | default unnamed => rw [unnamed, Request.config]
  | file named read => simp only [named, Request.config, read]

theorem Request.ofOptions_of_applied (accepted : options.Accepted files path format config)
    {detectors : List Detector} (applied : config.apply Detector.allBuiltIn = .ok detectors) :
    Request.ofOptions files options =
      .ok
        { path := path
          format := format
          detectors := detectors
          timeoutSecs := options.budget config
          sequential := options.sequential } := by
  have format_eq := Format.ofName?_eq_some_iff.mpr accepted.known
  simp [ofOptions, accepted.path_eq, format_eq, accepted.binary_exists,
    accepted.configures.config_eq, applied, bind, Except.bind, Options.budget,
    Runner.defaultTimeoutSecs]

/-- Accepted options give a request for the detectors in force. -/
theorem Request.ofOptions_accepted (accepted : options.Accepted files path format config) :
    ∃ detectors, List.Forall₂ (Detector.InForce config) Technique.all detectors ∧
      Request.ofOptions files options =
        .ok
          { path := path
            format := format
            detectors := detectors
            timeoutSecs := options.budget config
            sequential := options.sequential } := by
  obtain ⟨detectors, applied, inForce⟩ := Config.exists_detectors_inForce accepted.valid
  exact ⟨detectors, inForce, ofOptions_of_applied accepted applied⟩

/-- The detectors in force report on the results of their tools, in the order of the techniques. -/
theorem Detector.reports_of_inForce {techniques : List Technique} {detectors : List Detector}
    (inForce : List.Forall₂ (Detector.InForce config) techniques detectors)
    (result : Invocation → ToolResult) :
    let evidence := detectors.map fun detector => detector.evaluate (result detector.tool)
    List.Forall₂ (fun detector evidence => evidence.Reports detector (result detector.tool))
        detectors evidence ∧
      evidence.map (·.technique) = techniques := by
  induction inForce with
  | nil => exact ⟨.nil, rfl⟩
  | @cons technique detector techniques detectors keeps _ induction =>
      have reports := Detector.evaluate_reports keeps.cap_pos (result detector.tool)
      refine ⟨.cons reports induction.1, ?_⟩
      rw [List.map_cons, List.map_cons, induction.2, reports.technique_eq, keeps.technique_eq]

theorem CommandLine.perform_of_run {request : Request} {tools : Tools} {start : Instant} {run : Run}
    (run_eq : request.runner.run tools request.path start = .ok run) (color : Bool) (sink : Sink) :
    perform request tools start color sink =
      write sink
        (Report.write request.format color request.path run.evidence
          (Verdict.ofEvidence run.evidence))
        (.exit exitSuccess) run.log run.calls := by
  simp only [perform, run_eq]

theorem CommandLine.write_of_unlimited {sink : Sink} (unlimited : sink.limit = none)
    {writer : Writer Unit} {text : String} (writes : writer.Writes text) (ending : Ending)
    (log : List Event) (calls : List Invocation) :
    write sink writer ending log calls = ⟨ending, sink.take text, log, calls⟩ := by
  simp only [write, writes.run_of_unlimited unlimited]

/-- Options that pass all checks, with time that the clock can show, are answered by a report and an
exit with success, whatever the five tools return and in whichever mode they run. The run returns
one piece of evidence for each technique, which tells what the detector in force finds in the result
of its tool. Handed to the reporter are this evidence and the verdict on it, which counts the
positive pieces. -/
theorem accepted_options_are_answered
    (accepted : options.Accepted files path format config) (positive : 0 < options.budget config)
    {start deadline : Instant}
    (deadline_eq : deadline? start (options.budget config) = some deadline)
    (result : Invocation → ToolResult) :
    ∃ request, Request.ofOptions files options = .ok request ∧
      request.sequential = options.sequential ∧
      List.Forall₂ (Detector.InForce config) Technique.all request.detectors ∧
      request.runner.Receives (Tools.scripted result) path start deadline result ∧
      ∀ tools : Tools, request.runner.Receives tools path start deadline result →
        ∃ run, request.runner.run tools path start = .ok run ∧
          List.Forall₂ (fun detector evidence => evidence.Reports detector (result detector.tool))
            request.detectors run.evidence ∧
          run.evidence.length = 5 ∧ run.evidence.map (·.technique) = Technique.all ∧
          let verdict := Verdict.ofEvidence run.evidence
          verdict.positives = run.evidence.countP (·.isPositive) ∧ verdict.total = 5 ∧
            (verdict.isMatch = true ↔ 0 < verdict.positives) ∧
            verdict.confidence = Confidence.ofVotes verdict.positives ∧
            ∀ (reasons : Reasons) (color : Bool) (sink : Sink),
              let writer := Report.write format color path run.evidence verdict
              let outcome := CommandLine.run reasons options files tools start color sink
              (∀ output, writer.run sink = .ok () output →
                outcome = ⟨.exit 0, output, run.log, run.calls⟩) ∧
              (∀ output, writer.run sink = .error .sinkFull output →
                outcome = ⟨.sinkFull, output, run.log, run.calls⟩) ∧
              (sink.limit = none →
                outcome =
                  ⟨.exit 0, sink.take (Report.text format color path run.evidence verdict),
                    run.log, run.calls⟩) := by
  obtain ⟨detectors, inForce, request_eq⟩ := Request.ofOptions_accepted accepted
  refine ⟨_, request_eq, rfl, inForce, Runner.receives_scripted positive deadline_eq, ?_⟩
  intro tools receives
  obtain ⟨run, run_eq, evidence_eq, _⟩ := Runner.exists_run_of_receives receives deadline_eq
  have evidence_eq : run.evidence = detectors.map fun detector =>
      detector.evaluate (result detector.tool) := evidence_eq
  obtain ⟨reports, techniques⟩ := Detector.reports_of_inForce inForce result
  rw [← evidence_eq] at reports techniques
  have five : run.evidence.length = 5 := by
    rw [← List.length_map (·.technique), techniques]
    rfl
  refine ⟨run, run_eq, reports, five, techniques, rfl, five, decide_eq_true_iff, rfl, ?_⟩
  intro reasons color sink writer outcome
  have outcome_eq : outcome = CommandLine.write sink writer (.exit 0) run.log run.calls := by
    simp only [outcome, CommandLine.run, request_eq]
    exact CommandLine.perform_of_run run_eq color sink
  refine ⟨fun output written => ?_, fun output refused => ?_, fun unlimited => ?_⟩
  · simp only [outcome_eq, CommandLine.write, written]
  · simp only [outcome_eq, CommandLine.write, refused]
  · rw [outcome_eq]
    exact CommandLine.write_of_unlimited unlimited
      (Report.writes_text color format path run.evidence _) _ _ _

end

/-- A configuration that lowers one cap. -/
def cappedConfig : Config :=
  ⟨none, ⟨[("strings", ⟨none, none, some 2⟩)], List.pairwise_singleton _ _⟩⟩

/-- Files with one binary, in which every path leads to that configuration. -/
def cappedFiles : Files where
  exists? path := path = "app"
  read _ := .ok (Text.Utf8.encode "detectors:\n  strings:\n    cap: 2\n")

/-- Options that name the binary and the configuration. -/
def cappedOptions : Options := ⟨some "app", "json", none, some "caps.yaml", true⟩

theorem cappedFiles_read : Config.ofFile (cappedFiles.read "caps.yaml") = .ok cappedConfig := by
  decide +kernel

theorem cappedOptions_accepted :
    cappedOptions.Accepted cappedFiles "app" .json cappedConfig where
  path_eq := rfl
  known := .json
  binary_exists := rfl
  configures := .file rfl cappedFiles_read
  valid := rfl

/-- One tool succeeds and four cannot be started; the run exits with success. -/
theorem accepted_options_are_answered_capped :
    let result : Invocation → ToolResult := fun invocation =>
      if invocation.program = "strings" then .ok "rustc\ncargo"
      else .error (.spawn invocation.program "not found")
    (CommandLine.run ⟨id, id⟩ cappedOptions cappedFiles (Tools.scripted result) 0 false
      (Sink.empty none)).ending = .exit 0 := by
  intro result
  have deadline_eq : deadline? 0 (cappedOptions.budget cappedConfig) = some 30000 := rfl
  obtain ⟨request, _, _, _, receives, answered⟩ :=
    accepted_options_are_answered cappedOptions_accepted (by decide) deadline_eq result
  obtain ⟨run, _, _, _, _, _, _, _, _, written⟩ := answered (Tools.scripted result) receives
  obtain ⟨_, _, unlimited⟩ := written ⟨id, id⟩ false (Sink.empty none)
  rw [unlimited rfl]

end Toolmark
