import Toolmark.Proofs.CommandLine
import Toolmark.Proofs.Config.Effect
import Toolmark.Proofs.Config.Fault

/-!
# Requests that are refused

Options have a first fault or pass all checks, and never both. A fault is answered by its event, or
by the usage if no binary is named, before anything is run; otherwise the run gets the seconds of the
options, of the configuration, or of every run, in this order.
-/

namespace Toolmark

namespace Options

/-- The options name a binary that exists, and a known form of the report. -/
structure Inspects (options : Options) (files : Files) (path : String) : Prop where
  named : options.binaryPath = some path
  known : options.format = "pretty" ∨ options.format = "json"
  present : files.exists? path = true

/-- The first check that options fail. -/
inductive FirstFault (options : Options) (files : Files) : RequestError → Prop where
  | noPath (unnamed : options.binaryPath = none) : FirstFault options files .noPath
  | unknownFormat {path : String} (named : options.binaryPath = some path)
      (notPretty : options.format ≠ "pretty") (notJson : options.format ≠ "json") :
      FirstFault options files (.unknownFormat options.format)
  | noBinary {path : String} (named : options.binaryPath = some path)
      (known : options.format = "pretty" ∨ options.format = "json")
      (absent : files.exists? path = false) : FirstFault options files (.noBinary path)
  | unreadableConfig {path file : String} {error : FileError}
      (inspects : options.Inspects files path) (named : options.fingerprints = some file)
      (fails : Config.ofFile (files.read file) = .error error) :
      FirstFault options files (.unreadableConfig file error)
  | faultyConfig {path : String} {config : Config} {error : ConfigError}
      (inspects : options.Inspects files path) (configures : options.Configures files config)
      (fault : config.validate = .error error) : FirstFault options files (.faultyConfig error)

end Options

/-- What the reason is that a file gives no configuration. -/
inductive FileError.Tells (reasons : Reasons) : FileError → String → Prop where
  | unreadable (reason : String) : Tells reasons (.unreadable reason) reason
  | notText : Tells reasons .notText "stream did not contain valid UTF-8"
  | notConfig (text : String) : Tells reasons (.notConfig text) (reasons.config text)

/-- How a fault is answered: with the exit code 1 and without a tool. A missing path is answered by
the usage, and every other fault by one event, with one field that tells what was wrong. -/
inductive Outcome.Refuses (reasons : Reasons) (sink : Sink) : RequestError → Outcome → Prop where
  | noPath :
      Refuses reasons sink .noPath
        { ending := .exit 1
          output := sink.take "Usage: rust-detector <binary_path>\n"
          log := []
          calls := [] }
  | unknownFormat (format : String) :
      Refuses reasons sink (.unknownFormat format)
        { ending := .exit 1
          output := sink
          log :=
            [⟨.error, .commandLine, "invalid format, must be 'pretty' or 'json'",
              [("format", format)]⟩]
          calls := [] }
  | noBinary (path : String) :
      Refuses reasons sink (.noBinary path)
        { ending := .exit 1
          output := sink
          log := [⟨.error, .commandLine, "Binary file does not exist", [("path", path)]⟩]
          calls := [] }
  | unreadableConfig (path : String) {error : FileError} {reason : String}
      (tells : error.Tells reasons reason) :
      Refuses reasons sink (.unreadableConfig path error)
        { ending := .exit 1
          output := sink
          log :=
            [⟨.error, .commandLine, "invalid fingerprint configuration",
              [("error", "reading " ++ path ++ ": " ++ reason)]⟩]
          calls := [] }
  | faultyConfig {error : ConfigError} {reason : String} (tells : error.Tells reasons reason) :
      Refuses reasons sink (.faultyConfig error)
        { ending := .exit 1
          output := sink
          log :=
            [⟨.error, .commandLine, "invalid fingerprint configuration", [("error", reason)]⟩]
          calls := [] }

variable {options : Options} {files : Files} {path : String} {config : Config}
  {error : RequestError} {sink : Sink} {reasons : Reasons}

theorem Format.exists_ofName?_iff {name : String} :
    (∃ format, ofName? name = some format) ↔ name = "pretty" ∨ name = "json" := by
  simp only [ofName?_eq_some_iff]
  constructor
  · rintro ⟨_, _ | _⟩
    · exact .inl rfl
    · exact .inr rfl
  · rintro (rfl | rfl)
    · exact ⟨pretty, .pretty⟩
    · exact ⟨json, .json⟩

/-! ## The checks in their order -/

namespace Options

theorem Inspects.exists_accepted (inspects : options.Inspects files path)
    (configures : options.Configures files config) (valid : config.validate = .ok ()) :
    ∃ format, options.Accepted files path format config := by
  obtain ⟨format, format_eq⟩ := Format.exists_ofName?_iff.mpr inspects.known
  exact ⟨format, inspects.named, Format.ofName?_eq_some_iff.mp format_eq, inspects.present,
    configures, valid⟩

/-- The first fault of options is the one that is found. -/
theorem FirstFault.ofOptions_eq (fault : options.FirstFault files error) :
    Request.ofOptions files options = .error error := by
  cases fault with
  | noPath unnamed => simp only [Request.ofOptions, unnamed]
  | unknownFormat named notPretty notJson =>
      have unknown : Format.ofName? options.format = none := by
        cases found : Format.ofName? options.format with
        | none => rfl
        | some format =>
            rcases Format.exists_ofName?_iff.mp ⟨format, found⟩ with isPretty | isJson
            · exact absurd isPretty notPretty
            · exact absurd isJson notJson
      simp only [Request.ofOptions, named, unknown]
  | noBinary named known absent =>
      obtain ⟨format, format_eq⟩ := Format.exists_ofName?_iff.mpr known
      simp [Request.ofOptions, named, format_eq, absent]
  | unreadableConfig inspects named fails =>
      obtain ⟨format, format_eq⟩ := Format.exists_ofName?_iff.mpr inspects.known
      simp [Request.ofOptions, inspects.named, format_eq, inspects.present, Request.config, named,
        fails, bind, Except.bind]
  | faultyConfig inspects configures fault =>
      obtain ⟨format, format_eq⟩ := Format.exists_ofName?_iff.mpr inspects.known
      have refused := Config.apply_of_fault fault Detector.allBuiltIn
      simp [Request.ofOptions, inspects.named, format_eq, inspects.present, configures.config_eq,
        refused, bind, Except.bind]

theorem Inspects.passes_or_fails (inspects : options.Inspects files path) :
    (∃ config, options.Configures files config ∧ config.validate = .ok ()) ∨
      ∃ error, options.FirstFault files error := by
  have decided {config : Config} (configures : options.Configures files config) :
      (∃ config, options.Configures files config ∧ config.validate = .ok ()) ∨
        ∃ error, options.FirstFault files error := by
    cases checked : config.validate with
    | ok => exact .inl ⟨config, configures, checked⟩
    | error error => exact .inr ⟨_, .faultyConfig inspects configures checked⟩
  cases named : options.fingerprints with
  | none => exact decided (.default named)
  | some file =>
      cases read : Config.ofFile (files.read file) with
      | ok config => exact decided (.file named read)
      | error error => exact .inr ⟨_, .unreadableConfig inspects named read⟩

/-- Options pass all checks or have a first fault. -/
theorem passes_or_fails (options : Options) (files : Files) :
    (∃ path config, options.Inspects files path ∧ options.Configures files config ∧
        config.validate = .ok ()) ∨
      ∃ error, options.FirstFault files error := by
  cases named : options.binaryPath with
  | none => exact .inr ⟨_, .noPath named⟩
  | some path =>
      by_cases known : options.format = "pretty" ∨ options.format = "json"
      · cases present : files.exists? path with
        | false => exact .inr ⟨_, .noBinary named known present⟩
        | true =>
            have inspects : options.Inspects files path := ⟨named, known, present⟩
            rcases inspects.passes_or_fails with ⟨config, passes⟩ | fails
            · exact .inl ⟨path, config, inspects, passes⟩
            · exact .inr fails
      · obtain ⟨notPretty, notJson⟩ := not_or.mp known
        exact .inr ⟨_, .unknownFormat named notPretty notJson⟩

theorem FirstFault.not_passes (fault : options.FirstFault files error)
    (inspects : options.Inspects files path) (configures : options.Configures files config) :
    config.validate ≠ .ok () := by
  intro valid
  obtain ⟨format, accepted⟩ := inspects.exists_accepted configures valid
  obtain ⟨detectors, _, request_eq⟩ := Request.ofOptions_accepted accepted
  rw [fault.ofOptions_eq] at request_eq
  nomatch request_eq

theorem FirstFault.unique {other : RequestError} (fault : options.FirstFault files error)
    (otherFault : options.FirstFault files other) : other = error :=
  Except.error.inj (otherFault.ofOptions_eq.symm.trans fault.ofOptions_eq)

end Options

/-! ## The answers -/

theorem FileError.tells_message (reasons : Reasons) (error : FileError) :
    error.Tells reasons (error.message reasons) := by
  cases error <;> constructor

theorem CommandLine.writes_usage :
    (Writer.putAll [usage, "\n"]).Writes "Usage: rust-detector <binary_path>\n" := by
  have usage_eq : String.join [usage, "\n"] = "Usage: rust-detector <binary_path>\n" := rfl
  exact usage_eq ▸ Writer.writes_putAll _

theorem CommandLine.exists_refuse_eq (other : error ≠ .noPath) (reasons : Reasons) :
    ∃ event, ∀ sink, refuse reasons sink error = ⟨.exit exitError, sink, [event], []⟩ := by
  cases error with
  | noPath => exact absurd rfl other
  | _ => exact ⟨_, fun _ => rfl⟩

theorem CommandLine.refuses_refuse (unlimited : sink.limit = none) (error : RequestError) :
    (refuse reasons sink error).Refuses reasons sink error := by
  cases error with
  | noPath =>
      have outcome_eq := write_of_unlimited unlimited writes_usage (.exit exitError) [] []
      simp only [refuse, RequestError.event?, outcome_eq]
      exact .noPath
  | unknownFormat format => exact .unknownFormat format
  | noBinary path => exact .noBinary path
  | unreadableConfig path error => exact .unreadableConfig path (error.tells_message reasons)
  | faultyConfig error => exact .faultyConfig (error.tells_message reasons)

theorem Runner.exists_run (runner : Runner) (binary : String) {start : Instant} (tools : Tools)
    (fits : (deadline? start runner.timeoutSecs).isSome = true) :
    ∃ run, runner.run tools binary start = .ok run ∧
      run.log.head? = some (runner.starting binary) := by
  obtain ⟨deadline, deadline_eq⟩ := Option.isSome_iff_exists.mp fits
  exact ⟨_, Runner.run_eq deadline_eq, rfl⟩

theorem CommandLine.run_of_fault (fault : options.FirstFault files error) (tools : Tools)
    (start : Instant) (color : Bool) :
    run reasons options files tools start color sink = refuse reasons sink error := by
  rw [run, fault.ofOptions_eq]

theorem Outcome.Refuses.ending_eq {outcome : Outcome}
    (refuses : outcome.Refuses reasons sink error) : outcome.ending = .exit 1 := by
  cases refuses <;> rfl

theorem Options.budget_cases (options : Options) (config : Config) :
    options.timeoutSecs = some (options.budget config) ∨
      options.timeoutSecs = none ∧
        (config.timeoutSecs = some (options.budget config) ∨
          config.timeoutSecs = none ∧ options.budget config = 30) := by
  unfold budget
  cases options.timeoutSecs with
  | some seconds => exact .inl rfl
  | none =>
      cases config.timeoutSecs with
      | some seconds => exact .inr ⟨rfl, .inl rfl⟩
      | none => exact .inr ⟨rfl, .inr ⟨rfl, rfl⟩⟩

/-- Options that pass all checks are answered by the report on a run with their budget. -/
theorem CommandLine.exists_run_eq (reasons : Reasons)
    (inspects : options.Inspects files path) (configures : options.Configures files config)
    (valid : config.validate = .ok ())
    (unlimited : sink.limit = none) {start : Instant}
    (fits : (deadline? start (options.budget config)).isSome = true) (tools : Tools)
    (color : Bool) :
    ∃ detectors format run,
      let runner := Runner.mk detectors (options.budget config) options.sequential
      config.apply Detector.allBuiltIn = .ok detectors ∧
        format.Named options.format ∧
        runner.run tools path start = .ok run ∧
        run.log.head? = some (runner.starting path) ∧
        CommandLine.run reasons options files tools start color sink =
          { ending := .exit 0
            output := sink.take
              (Report.text format color path run.evidence (Verdict.ofEvidence run.evidence))
            log := run.log
            calls := run.calls } := by
  obtain ⟨format, accepted⟩ := inspects.exists_accepted configures valid
  obtain ⟨detectors, applied, _⟩ := Config.exists_apply valid Detector.allBuiltIn
  let request := Request.mk path format detectors (options.budget config) options.sequential
  have request_eq : Request.ofOptions files options = .ok request :=
    Request.ofOptions_of_applied accepted applied
  obtain ⟨run, run_eq, begins⟩ := request.runner.exists_run path tools fits
  refine ⟨detectors, format, run, applied, accepted.known, run_eq, begins, ?_⟩
  rw [CommandLine.run, request_eq]
  exact (perform_of_run run_eq color sink).trans
    (write_of_unlimited unlimited (Report.writes_text color format path run.evidence _) _ _ _)

/-- Options pass all checks or have exactly one first fault. A fault ends the work with the code 1
before a tool is run, an event of a run is logged or anything but the usage is written: the answer
is the same for all tools, and its log is the one event of the fault with its message, or empty if
no binary is named. Options that pass all checks end with the code 0, after a run with the seconds
of the options, or else of the configuration, or else 30. -/
theorem fatal_errors_precede_the_run (reasons : Reasons) (options : Options) (files : Files)
    (tools : Tools) (start : Instant) (color : Bool) {sink : Sink} (unlimited : sink.limit = none) :
    let outcome := CommandLine.run reasons options files tools start color sink
    let passes := fun path config => options.Inspects files path ∧
      options.Configures files config ∧ config.validate = .ok ()
    ((∃ path config, passes path config) ∨ ∃ error, options.FirstFault files error) ∧
      (∀ error, options.FirstFault files error →
        (¬ ∃ path config, passes path config) ∧
          (∀ other, options.FirstFault files other → other = error) ∧
          outcome.Refuses reasons sink error ∧
          ∀ others now flag, CommandLine.run reasons options files others now flag sink = outcome) ∧
      ((∀ config, options.Configures files config →
          (deadline? start (options.budget config)).isSome = true) →
        (outcome.ending = .exit 0 ↔ ∃ path config, passes path config) ∧
          ∀ path config, passes path config → ∃ detectors seconds run,
            let runner := Runner.mk detectors seconds options.sequential
            config.apply Detector.allBuiltIn = .ok detectors ∧
              (options.timeoutSecs = some seconds ∨ options.timeoutSecs = none ∧
                (config.timeoutSecs = some seconds ∨
                  config.timeoutSecs = none ∧ seconds = 30)) ∧
              runner.run tools path start = .ok run ∧ outcome.calls = run.calls ∧
              outcome.log = run.log ∧ outcome.log.head? = some (runner.starting path)) := by
  intro outcome passes
  have refuses {error : RequestError} (fault : options.FirstFault files error) :
      outcome.Refuses reasons sink error := by
    simp only [outcome, CommandLine.run_of_fault fault]
    exact CommandLine.refuses_refuse unlimited error
  refine ⟨options.passes_or_fails files, fun error fault => ?_, fun fits => ⟨⟨?_, ?_⟩, ?_⟩⟩
  · refine ⟨?_, fun other => fault.unique, refuses fault, fun others now flag => ?_⟩
    · rintro ⟨path, config, inspects, configures, valid⟩
      exact fault.not_passes inspects configures valid
    · simp only [outcome, CommandLine.run_of_fault fault]
  · intro success
    rcases options.passes_or_fails files with all | ⟨error, fault⟩
    · exact all
    · rw [(refuses fault).ending_eq] at success
      nomatch success
  · rintro ⟨path, config, inspects, configures, valid⟩
    obtain ⟨_, _, _, _, _, _, _, outcome_eq⟩ :=
      CommandLine.exists_run_eq reasons inspects configures valid unlimited (fits config configures)
        tools color
    simp only [outcome, outcome_eq]
  · rintro path config ⟨inspects, configures, valid⟩
    obtain ⟨detectors, _, run, applied, _, run_eq, begins, outcome_eq⟩ :=
      CommandLine.exists_run_eq reasons inspects configures valid unlimited (fits config configures)
        tools color
    have outcome_eq : outcome = _ := outcome_eq
    refine ⟨detectors, options.budget config, run, applied, options.budget_cases config, run_eq, ?_⟩
    rw [outcome_eq]
    exact ⟨rfl, rfl, begins⟩

/-- Files with one binary, in which every path leads to a configuration with an empty cap. -/
def faultyFiles : Files where
  exists? path := path = "app"
  read _ := .ok (Text.Utf8.encode "detectors:\n  strings:\n    cap: 0\n")

/-- Options with a known form of the report. -/
def jsonOptions (path : String) : Options := ⟨some path, "json", some 5, some "caps.yaml", true⟩

/-- A missing binary is reported before a configuration that has a fault, and that before anything
is run; without the fault the run has the five seconds of the options. -/
theorem fatal_errors_precede_the_run_faulty :
    let tools := Tools.scripted fun _ => .ok "rustc"
    (CommandLine.run ⟨id, id⟩ (jsonOptions "lib") faultyFiles tools 0 false (Sink.empty none)).log =
        [⟨.error, .commandLine, "Binary file does not exist", [("path", "lib")]⟩] ∧
      (CommandLine.run ⟨id, id⟩ (jsonOptions "app") faultyFiles tools 0 false
        (Sink.empty none)).Refuses ⟨id, id⟩ (Sink.empty none) (.faultyConfig (.noCap "strings")) ∧
      (CommandLine.run ⟨id, id⟩ (jsonOptions "app") cappedFiles tools 0 false
        (Sink.empty none)).ending = .exit 0 := by
  intro tools
  have unlimited : (Sink.empty none).limit = none := rfl
  have inspects (files : Files) (present : files.exists? "app" = true) :
      (jsonOptions "app").Inspects files "app" :=
    ⟨rfl, .inr rfl, present⟩
  refine ⟨?_, ?_, ?_⟩
  · have absent : (jsonOptions "lib").FirstFault faultyFiles (.noBinary "lib") :=
      .noBinary rfl (.inr rfl) rfl
    obtain ⟨_, faults, _⟩ := fatal_errors_precede_the_run ⟨id, id⟩ (jsonOptions "lib") faultyFiles
      tools 0 false unlimited
    obtain ⟨_, _, refuses, _⟩ := faults _ absent
    generalize CommandLine.run _ _ _ _ _ _ _ = outcome at refuses ⊢
    cases refuses
    rfl
  · have read : Config.ofFile (faultyFiles.read "caps.yaml") =
        .ok ⟨none, ⟨[("strings", ⟨none, none, some 0⟩)], List.pairwise_singleton _ _⟩⟩ := by
      decide +kernel
    have fault : (jsonOptions "app").FirstFault faultyFiles (.faultyConfig (.noCap "strings")) :=
      .faultyConfig (inspects faultyFiles rfl) (.file rfl read) rfl
    obtain ⟨_, faults, _⟩ := fatal_errors_precede_the_run ⟨id, id⟩ (jsonOptions "app") faultyFiles
      tools 0 false unlimited
    exact (faults _ fault).2.2.1
  · obtain ⟨_, _, succeeds⟩ := fatal_errors_precede_the_run ⟨id, id⟩ (jsonOptions "app") cappedFiles
      tools 0 false unlimited
    have fits (config : Config) (_ : (jsonOptions "app").Configures cappedFiles config) :
        (deadline? 0 ((jsonOptions "app").budget config)).isSome = true :=
      rfl
    exact (succeeds fits).1.mpr
      ⟨"app", cappedConfig, inspects cappedFiles rfl, .file rfl cappedFiles_read, rfl⟩

end Toolmark
