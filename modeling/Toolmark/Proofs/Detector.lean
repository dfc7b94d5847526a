import Toolmark.Detector
import Toolmark.Proofs.Evidence
import Toolmark.Proofs.Scan

/-!
# What a detector reports

Evidence tells what a detector found in the result of its tool: its technique, the first findings
up to the cap, and whether they reached it. A tool without output gives the same evidence as one
whose output has no accepted line. The record of the evidence can be made from the findings of the
scan alone, and its parts agree.
-/

namespace Toolmark

open Text

/-- Evidence tells what a detector finds in the result of its tool. -/
structure Evidence.Reports (evidence : Evidence) (detector : Detector) (result : ToolResult) :
    Prop where
  /-- The technique is that of the detector. -/
  technique_eq : evidence.technique = detector.technique
  /-- The evidence is positive when the tool succeeded and some line of its output is accepted. -/
  positive_iff : evidence.isPositive = true ↔
    ∃ output, result = .ok output ∧ ∃ line ∈ lines output, detector.matcher.accepts line = true
  /-- The findings are those of the first accepted lines, up to the cap. -/
  found_eq : ∀ output, result = .ok output →
    evidence.found =
      (Scan.renderings detector.matcher detector.style (lines output)).take detector.cap
  /-- The evidence is truncated when the accepted lines reach the cap. -/
  truncated_iff : ∀ output, result = .ok output →
    (evidence.truncated = true ↔
      detector.cap ≤ (Scan.accepted detector.matcher (lines output)).length)
  /-- A tool that failed leaves nothing. -/
  eq_negative : ∀ failure, result = .error failure →
    evidence = Evidence.negative detector.technique

/-- Evidence has at most as many findings as a cap allows, and is truncated when it has that
many. -/
structure Evidence.Within (evidence : Evidence) (cap : Nat) : Prop where
  length_le : evidence.found.length ≤ cap
  truncated_iff : evidence.truncated = true ↔ evidence.found.length = cap

namespace Detector

variable {detector : Detector}

theorem scan_eq (positive : 0 < detector.cap) (output : String) :
    detector.scan output =
      Evidence.ofFound detector.technique
        ((Scan.renderings detector.matcher detector.style (lines output)).take detector.cap)
        (decide (detector.cap ≤ (Scan.accepted detector.matcher (lines output)).length)) := by
  rw [scan, Scan.run_eq output positive]

theorem found_scan (positive : 0 < detector.cap) (output : String) :
    (detector.scan output).found =
      (Scan.renderings detector.matcher detector.style (lines output)).take detector.cap := by
  rw [scan_eq positive]
  rfl

theorem length_found_scan (positive : 0 < detector.cap) (output : String) :
    (detector.scan output).found.length =
      min detector.cap (Scan.accepted detector.matcher (lines output)).length :=
  Scan.length_findings_run positive output

theorem isPositive_scan_iff (positive : 0 < detector.cap) (output : String) :
    (detector.scan output).isPositive = true ↔
      ∃ line ∈ lines output, detector.matcher.accepts line = true := by
  rw [← Scan.accepted_ne_nil_iff, Evidence.isPositive_iff, found_scan positive, Ne,
    List.take_eq_nil_iff, Scan.renderings, List.map_eq_nil_iff]
  simp [Nat.ne_of_gt positive]

theorem truncated_scan_iff (positive : 0 < detector.cap) (output : String) :
    (detector.scan output).truncated = true ↔
      detector.cap ≤ (Scan.accepted detector.matcher (lines output)).length := by
  rw [scan_eq positive, Evidence.truncated_ofFound_iff, decide_eq_true_eq]
  refine ⟨And.left, fun reached => ⟨reached, ?_⟩⟩
  rw [← List.length_pos_iff, List.length_take, Scan.length_renderings]
  omega

theorem scan_eq_negative {output : String}
    (quiet : ∀ line ∈ lines output, detector.matcher.accepts line = false) :
    detector.scan output = Evidence.negative detector.technique := by
  have nothing : (Scan.run output detector.matcher detector.style detector.cap).findings = [] :=
    Scan.findings_resume_of_quiet quiet (lines output) [] detector.cap 0
  rw [scan, nothing]
  simp [Evidence.ofFound, Evidence.negative]

/-- With room for a finding, evidence tells what is found in the result of the tool. -/
theorem evaluate_reports (positive : 0 < detector.cap) (result : ToolResult) :
    (detector.evaluate result).Reports detector result := by
  cases result with
  | ok output =>
      constructor
      case technique_eq => rfl
      case positive_iff => simpa [evaluate] using isPositive_scan_iff positive output
      case found_eq =>
        rintro _ ⟨⟩
        exact found_scan positive output
      case truncated_iff =>
        rintro _ ⟨⟩
        exact truncated_scan_iff positive output
      case eq_negative => rintro _ ⟨⟩
  | error failure =>
      constructor
      case technique_eq => rfl
      case positive_iff => simp [evaluate, Evidence.isPositive, Evidence.negative]
      case found_eq => rintro _ ⟨⟩
      case truncated_iff => rintro _ ⟨⟩
      case eq_negative => exact fun _ _ => rfl

/-- The record that the result of the tool gives, made from the findings of the scan. -/
def record (detector : Detector) : ToolResult → Evidence.Record
  | .ok output =>
      let result := Scan.run output detector.matcher detector.style detector.cap
      .ofFound detector.technique result.findings result.truncated
  | .error _ => .negative detector.technique

theorem record_evaluate (detector : Detector) (result : ToolResult) :
    (detector.evaluate result).record = detector.record result := by
  cases result with
  | ok output => exact Evidence.record_ofFound _ _ _
  | error failure => rfl

theorem within_evaluate (positive : 0 < detector.cap) (result : ToolResult) :
    (detector.evaluate result).Within detector.cap := by
  cases result with
  | ok output =>
      have length_eq : (detector.scan output).found.length = _ := length_found_scan positive output
      constructor
      case length_le =>
        rw [evaluate, length_eq]
        exact Nat.min_le_left _ _
      case truncated_iff =>
        rw [evaluate, truncated_scan_iff positive, length_eq]
        omega
  | error failure =>
      constructor
      case length_le => exact Nat.zero_le _
      case truncated_iff =>
        have empty : (Evidence.negative detector.technique).found.length ≠ detector.cap :=
          Nat.ne_of_lt positive
        exact iff_of_false Bool.false_ne_true empty

end Detector

/-- The parts of evidence agree, whether it comes from given findings, from a scan or from the
result of a tool. It is positive if it has findings, only positive evidence is truncated, and its
record holds the findings with one marker behind them if it is truncated. Cutting off the marker
gives back the findings, whatever their texts, and evidence is made again from them. With room for a
finding, the evidence of a detector keeps within its cap. No other record has parts that agree.
Windows are taken without overflow, as of styles that fit the text (`Style.Fits`). -/
theorem evidence_parts_agree (technique : Technique) (found : List String) (truncated : Bool)
    (detector : Detector) (output : String) (result : ToolResult) :
    let given := Evidence.ofFound technique found truncated
    let scanned := detector.scan output
    let evaluated := detector.evaluate result
    (given.record = .ofFound technique found truncated ∧
        scanned.record = detector.record (.ok output) ∧
        evaluated.record = detector.record result) ∧
      (given.record.found? = some found ∧
        (given.truncated = true ↔ truncated = true ∧ found ≠ [])) ∧
      (∀ evidence ∈ [given, scanned, evaluated],
        evidence.record.Tells evidence.found ∧
          Evidence.ofFound evidence.technique evidence.found evidence.truncated = evidence) ∧
      (0 < detector.cap → ∀ evidence ∈ [scanned, evaluated], evidence.Within detector.cap) ∧
      ∀ (record : Evidence.Record) (told : List String),
        (∃ evidence : Evidence, evidence.record = record ∧ evidence.found = told) ↔
          record.Tells told := by
  intro given scanned evaluated
  refine ⟨⟨Evidence.record_ofFound technique found truncated, detector.record_evaluate (.ok output),
    detector.record_evaluate result⟩, ⟨given.record_tells.found?_eq,
    Evidence.truncated_ofFound_iff technique found truncated⟩,
    fun evidence _ => ⟨evidence.record_tells, evidence.ofFound_found⟩, ?_,
    fun _ _ => Evidence.exists_record_eq_iff⟩
  intro positive
  simp only [List.forall_mem_cons, List.not_mem_nil, false_implies, implies_true, and_true]
  exact ⟨detector.within_evaluate positive (.ok output), detector.within_evaluate positive result⟩

/-- A detector that seeks the words of the marker. -/
def Detector.seekingMarker : Detector :=
  { Detector.strings with matcher := Matcher.ofPatterns ["findings omitted"], cap := 2 }

/-- Two findings that read like the marker fill the room, and the marker stands behind them. Where
nothing is truncated, the same text is a finding and no marker. -/
theorem evidence_parts_agree_marked :
    let text := Evidence.marker
    let scanned := Detector.seekingMarker.scan (text ++ "\n\n" ++ text ++ "\n" ++ text)
    let given := Evidence.ofFound .strings [text] false
    0 < Detector.seekingMarker.cap ∧
      (scanned.record = ⟨.strings, [text, text, text], true, true⟩ ∧
        scanned.record.found? = some [text, text]) ∧
      (given.record = ⟨.strings, [text], true, false⟩ ∧ given.record.found? = some [text]) := by
  intro text scanned given
  have positive : 0 < Detector.seekingMarker.cap := by decide
  have technique_eq : scanned.technique = .strings := rfl
  have found_eq : scanned.found = [text, text] := by decide +kernel
  obtain ⟨⟨given_eq, -⟩, ⟨given_found, -⟩, agree, within, -⟩ :=
    evidence_parts_agree .strings [text] false Detector.seekingMarker
      (text ++ "\n\n" ++ text ++ "\n" ++ text) (.error (.timeout "strings"))
  have tells := (agree scanned (List.mem_cons_of_mem _ List.mem_cons_self)).1
  have full : scanned.truncated = true :=
    (within positive scanned List.mem_cons_self).truncated_iff.mpr (congrArg List.length found_eq)
  clear_value scanned
  rw [found_eq] at tells
  have scanned_eq : Evidence.Record.ofFound scanned.technique [text, text] scanned.truncated =
      scanned.record := tells.ofFound_eq
  rw [technique_eq, full] at scanned_eq
  exact ⟨positive, ⟨scanned_eq.symm, tells.found?_eq⟩, given_eq, given_found⟩

end Toolmark
