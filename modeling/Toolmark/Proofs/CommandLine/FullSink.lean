import Toolmark.Proofs.CommandLine.Refusal

/-!
# Output that does not fit

Options owe a text: the usage, a report, or nothing. They are answered by writing that text, and only
if it does not fit does the work end with a full sink. What was written until then is a part of the
text at its beginning, and never all of it.
-/

namespace Toolmark

namespace CommandLine

variable (reasons : Reasons) (options : Options) (files : Files) (tools : Tools) (start : Instant)
  (color : Bool)

/-- The text that options owe. -/
inductive Owes : String → Prop where
  /-- Without a binary it is the usage. -/
  | usage (unnamed : options.binaryPath = none) : Owes "Usage: rust-detector <binary_path>\n"
  /-- Any other fault is only logged. -/
  | refused {path : String} {error : RequestError} (named : options.binaryPath = some path)
      (fault : options.FirstFault files error) : Owes ""
  /-- A run that cannot begin has no report. -/
  | notRun {request : Request} {error : RunError}
      (accepted : Request.ofOptions files options = .ok request)
      (failed : request.runner.run tools request.path start = .error error) : Owes ""
  /-- A run is reported. -/
  | report {request : Request} {run : Run}
      (accepted : Request.ofOptions files options = .ok request)
      (done : request.runner.run tools request.path start = .ok run) :
      Owes (Report.text request.format color request.path run.evidence
        (Verdict.ofEvidence run.evidence))

/-- The answer to options is written by a writer with a text, and nothing else in it depends on the
sink. -/
structure Answers (text : String) (writer : Writer Unit) (ending : Ending) (log : List Event)
    (calls : List Invocation) : Prop where
  writes : writer.Writes text
  ending_ne : ending ≠ .sinkFull
  run_eq : ∀ sink, run reasons options files tools start color sink =
    write sink writer ending log calls

variable {options files}

theorem exists_answers_of_fault {error : RequestError} (fault : options.FirstFault files error) :
    ∃ text writer ending log calls, Owes options files tools start color text ∧
      Answers reasons options files tools start color text writer ending log calls := by
  have refused (sink : Sink) : run reasons options files tools start color sink =
      refuse reasons sink error :=
    run_of_fault fault tools start color
  cases named : options.binaryPath with
  | none =>
      obtain rfl := (Options.FirstFault.noPath named).unique fault
      exact ⟨_, _, .exit exitError, [], [], .usage named, writes_usage, Ending.noConfusion, refused⟩
  | some path =>
      have other : error ≠ .noPath := by
        rintro rfl
        cases fault with
        | noPath unnamed => exact Option.some_ne_none path (named.symm.trans unnamed)
      -- Writing nothing succeeds in every sink, so a full one cannot hide the event.
      obtain ⟨event, refuse_eq⟩ := exists_refuse_eq other reasons
      exact ⟨_, pure (), .exit exitError, [event], [], .refused named fault, Writer.writes_pure,
        Ending.noConfusion, fun sink => (refused sink).trans (refuse_eq sink)⟩

variable (options files)

/-- Options are answered by writing what they owe. -/
theorem exists_answers :
    ∃ text writer ending log calls, Owes options files tools start color text ∧
      Answers reasons options files tools start color text writer ending log calls := by
  cases request_eq : Request.ofOptions files options with
  | error error =>
      obtain ⟨path, config, inspects, configures, valid⟩ | ⟨_, fault⟩ :=
        options.passes_or_fails files
      · obtain ⟨_, accepted⟩ := inspects.exists_accepted configures valid
        obtain ⟨_, _, accepted_eq⟩ := Request.ofOptions_accepted accepted
        nomatch request_eq.symm.trans accepted_eq
      · exact exists_answers_of_fault reasons tools start color fault
  | ok request =>
      cases ran : request.runner.run tools request.path start with
      | error error =>
          refine ⟨_, pure (), .notRun error, [], [], .notRun request_eq ran, Writer.writes_pure,
            Ending.noConfusion, fun sink => ?_⟩
          simp only [run, request_eq, perform, ran]
          rfl
      | ok done =>
          refine ⟨_, _, .exit exitSuccess, done.log, done.calls, .report request_eq ran,
            Report.writes_text color request.format request.path done.evidence _,
            Ending.noConfusion, fun sink => ?_⟩
          simp only [run, request_eq, perform, ran]

/-- An empty sink ends the work exactly if a text does not fit it. -/
theorem write_empty {writer : Writer Unit} {text : String} (writes : writer.Writes text)
    (limit : Nat) (ending : Ending) (log : List Event) (calls : List Invocation) :
    let outcome := write (Sink.empty (some limit)) writer ending log calls
    (text.utf8ByteSize ≤ limit → outcome = ⟨ending, ⟨some limit, text⟩, log, calls⟩) ∧
      (limit < text.utf8ByteSize → ∃ front rest, text = front ++ rest ∧ rest ≠ "" ∧
        outcome = ⟨.sinkFull, ⟨some limit, front⟩, log, calls⟩) := by
  obtain ⟨whole, part⟩ := writes.run_empty limit
  refine ⟨fun fits => ?_, fun exceeds => ?_⟩
  · simp only [write, whole fits]
  · obtain ⟨front, rest, text_eq, left, refused⟩ := part exceeds
    refine ⟨front, rest, text_eq, left, ?_⟩
    simp only [write, refused]

end CommandLine

/-- The writer of a report succeeds in a sink with a limit if and only if the complete report fits,
and then it has written the complete report. Otherwise it fails, and the sink has taken a part at
the beginning of the report that is not all of it. Options are answered by the text that they owe,
and the work ends with a full sink exactly if this text does not fit; if it does, the answer is the
one without a limit. -/
theorem full_sink_is_an_error (limit : Nat) :
    (∀ (format : Format) (color : Bool) (path : String) (evidence : List Evidence)
        (verdict : Verdict),
      let text := Report.text format color path evidence verdict
      let writer := Report.write format color path evidence verdict
      let written := writer.run (Sink.empty (some limit))
      writer.run (Sink.empty none) = .ok () ⟨none, text⟩ ∧
        (text.utf8ByteSize ≤ limit → written = .ok () ⟨some limit, text⟩) ∧
        (limit < text.utf8ByteSize →
          ∃ front rest, text = front ++ rest ∧ rest ≠ "" ∧
            written = .error .sinkFull ⟨some limit, front⟩)) ∧
      ∀ (reasons : Reasons) (options : Options) (files : Files) (tools : Tools) (start : Instant)
        (color : Bool),
        let free := CommandLine.run reasons options files tools start color (Sink.empty none)
        let bounded :=
          CommandLine.run reasons options files tools start color (Sink.empty (some limit))
        ∃ text, CommandLine.Owes options files tools start color text ∧
          free.ending ≠ .sinkFull ∧ free.output = ⟨none, text⟩ ∧
          (bounded.ending = .sinkFull ↔ limit < text.utf8ByteSize) ∧
          (text.utf8ByteSize ≤ limit → bounded = { free with output := ⟨some limit, text⟩ }) ∧
          (limit < text.utf8ByteSize →
            ∃ front rest, text = front ++ rest ∧ rest ≠ "" ∧
              bounded = { free with ending := .sinkFull, output := ⟨some limit, front⟩ }) := by
  constructor
  · intro format color path evidence verdict text writer written
    have writes := Report.writes_text color format path evidence verdict
    refine ⟨?_, writes.run_empty limit⟩
    rw [writes.run_of_unlimited rfl, Sink.empty_take]
  · intro reasons options files tools start color free bounded
    obtain ⟨text, writer, ending, log, calls, owes, answers⟩ :=
      CommandLine.exists_answers reasons options files tools start color
    have free_eq : free = ⟨ending, ⟨none, text⟩, log, calls⟩ := by
      rw [← Sink.empty_take, ← CommandLine.write_of_unlimited rfl answers.writes]
      exact answers.run_eq (Sink.empty none)
    have bounded_eq : bounded = _ := answers.run_eq (Sink.empty (some limit))
    obtain ⟨whole, part⟩ := CommandLine.write_empty answers.writes limit ending log calls
    rw [← bounded_eq] at whole part
    rw [free_eq]
    refine ⟨text, owes, answers.ending_ne, rfl, ⟨fun full => ?_, fun exceeds => ?_⟩, whole, part⟩
    · by_contra within
      rw [whole (Nat.not_lt.mp within)] at full
      exact answers.ending_ne full
    · obtain ⟨_, _, _, _, refused⟩ := part exceeds
      rw [refused]

/-- Options without a binary. -/
def namelessOptions : Options := ⟨none, "json", none, none, true⟩

theorem eq_usage_of_owes {files : Files} {tools : Tools} {start : Instant} {color : Bool}
    {text : String} (owes : CommandLine.Owes namelessOptions files tools start color text) :
    text = "Usage: rust-detector <binary_path>\n" := by
  cases owes with
  | usage => rfl
  | refused named => nomatch named
  | notRun accepted => nomatch accepted
  | report accepted => nomatch accepted

/-- A report of 98 bytes does not fit 97, and the usage of 35 bytes does not fit 34. -/
theorem full_sink_is_an_error_one_byte_short :
    let text := Report.text .pretty false "a" [] (Verdict.ofEvidence [])
    let written := fun limit =>
      (Report.write .pretty false "a" [] (Verdict.ofEvidence [])).run (Sink.empty (some limit))
    let answer := fun limit => CommandLine.run ⟨id, id⟩ namelessOptions cappedFiles
      (Tools.scripted fun _ => .ok "rustc") 0 false (Sink.empty (some limit))
    text.utf8ByteSize = 98 ∧ written 98 = .ok () ⟨some 98, text⟩ ∧
      (∃ front rest, text = front ++ rest ∧ rest ≠ "" ∧
        written 97 = .error .sinkFull ⟨some 97, front⟩) ∧
      (answer 34).ending = .sinkFull ∧ (answer 35).ending = .exit 1 := by
  intro text written answer
  have size_eq : text.utf8ByteSize = 98 := by decide +kernel
  obtain ⟨_, whole, _⟩ :=
    (full_sink_is_an_error 98).1 .pretty false "a" [] (Verdict.ofEvidence [])
  obtain ⟨_, _, part⟩ :=
    (full_sink_is_an_error 97).1 .pretty false "a" [] (Verdict.ofEvidence [])
  obtain ⟨_, owes, _, _, full_iff, _⟩ := (full_sink_is_an_error 34).2 ⟨id, id⟩ namelessOptions
    cappedFiles (Tools.scripted fun _ => .ok "rustc") 0 false
  obtain ⟨_, otherOwes, _, _, _, fits, _⟩ := (full_sink_is_an_error 35).2 ⟨id, id⟩ namelessOptions
    cappedFiles (Tools.scripted fun _ => .ok "rustc") 0 false
  obtain rfl := eq_usage_of_owes owes
  obtain rfl := eq_usage_of_owes otherOwes
  refine ⟨size_eq, whole (Nat.le_of_eq size_eq), part ?_, full_iff.mpr (by decide +kernel), ?_⟩
  · exact Nat.lt_of_lt_of_eq (by decide) size_eq.symm
  · have answer_eq := fits (by decide +kernel)
    rw [show answer 35 = _ from answer_eq]
    rfl

end Toolmark
