import Toolmark.Proofs.CommandLine.Refusal
import Toolmark.Proofs.Report.Lines
import Toolmark.Proofs.Styled

/-!
# Reports with and without colour

The report for people is the same with and without colour once its escape sequences are removed,
every style in it ends on its line, and the findings stand in it without any style. The report for
programs has no colour.
-/

namespace Toolmark

namespace StyledLine

/-- Removing the escape sequences removes the colour from lines that have no escape character. -/
theorem remove_text {lines : List StyledLine}
    (unescaped : ∀ line ∈ lines, ∀ span ∈ line, '\x1b' ∉ span.text.toList) :
    Escape.remove (text true lines).toList = (text false lines).toList := by
  have removes := Escape.removesTo_flatMap fun line member =>
    StyledLine.removesTo_render (unescaped line member)
  rw [text, text, String.toList_ofList, String.toList_ofList, removes.remove_eq]

theorem closes_text {lines : List StyledLine}
    (unescaped : ∀ line ∈ lines, ∀ span ∈ line, '\x1b' ∉ span.text.toList)
    (oneLine : ∀ line ∈ lines, ∀ span ∈ line, span.emphasis ≠ none → '\n' ∉ span.text.toList) :
    Escape.Closes (text true lines).toList := by
  have settled := Escape.settled_flatMap fun line member =>
    StyledLine.settled_render (unescaped line member) (oneLine line member)
  rw [text, String.toList_ofList]
  exact settled.closes

end StyledLine

namespace Report

variable {path : String} {evidence : List Evidence} {verdict : Verdict}

/-! ## Control characters -/

theorem forall_span_lines {holds : Span → Prop}
    (inSummary : ∀ span ∈ summary path verdict, holds span)
    (inHeader : holds (.plain "Detailed analysis:") ∧ holds (.plain "================="))
    (inHeadings : ∀ found ∈ evidence, ∀ span ∈ heading found, holds span)
    (inDetails : ∀ found ∈ evidence, ∀ line ∈ details found, ∀ span ∈ line, holds span) :
    ∀ line ∈ lines path evidence verdict, ∀ span ∈ line, holds span := by
  have inBlocks : ∀ line ∈ evidence.flatMap block, ∀ span ∈ line, holds span := by
    rw [List.forall_mem_flatMap]
    intro found member
    rw [block, List.forall_mem_append, List.forall_mem_cons]
    exact ⟨⟨inHeadings found member, inDetails found member⟩, by simp⟩
  rw [lines, List.forall_mem_append, List.forall_mem_cons]
  exact ⟨⟨inSummary, by simp [inHeader]⟩, inBlocks⟩

/-- A line feed or an escape character in a text of a report is one of the path or of a finding, and
no finding is emphasised. -/
theorem exists_finding_of_control_mem {c : Char} (control : c = '\n' ∨ c = '\x1b')
    (absent : c ∉ path.toList) :
    ∀ line ∈ lines path evidence verdict, ∀ span ∈ line, c ∈ span.text.toList →
      span.emphasis = none ∧
        ∃ found ∈ evidence, ∃ finding ∈ found.findings, c ∈ finding.toList := by
  have words : c ∉ verdict.confidence.words.toList := by
    rcases control with rfl | rfl <;> cases verdict.confidence <;> decide
  have name (technique : Technique) : c ∉ technique.name.toList := by
    rcases control with rfl | rfl <;> cases technique <;> decide
  have bullet : c ∉ "  • ".toList := by
    rcases control with rfl | rfl <;> decide
  refine forall_span_lines ?_ ?_ ?_ ?_
  case refine_1 =>
    unfold summary
    rcases control with rfl | rfl <;> split <;>
      simp [Span.styled, absent, words]
  case refine_2 =>
    rcases control with rfl | rfl <;> simp [Span.plain]
  case refine_3 =>
    intro found _
    unfold heading
    rcases control with rfl | rfl <;> split <;>
      simp [Span.styled, Span.plain, name]
  case refine_4 =>
    intro found member
    unfold details
    split
    · rcases control with rfl | rfl <;> simp [Span.styled, Span.plain]
    · intro line inDetails span inLine inText
      obtain ⟨finding, inFindings, rfl⟩ := List.mem_map.mp inDetails
      obtain rfl := List.mem_singleton.mp inLine
      rw [Span.plain, String.toList_append, List.mem_append] at inText
      exact ⟨rfl, found, member, finding, inFindings, inText.resolve_left bullet⟩

theorem escape_not_mem_text (pathUnescaped : '\x1b' ∉ path.toList)
    (findingsUnescaped : ∀ found ∈ evidence, ∀ finding ∈ found.findings,
      '\x1b' ∉ finding.toList) :
    ∀ line ∈ lines path evidence verdict, ∀ span ∈ line, '\x1b' ∉ span.text.toList := by
  intro line inReport span inLine escaped
  obtain ⟨-, found, inEvidence, finding, inFindings, inFinding⟩ :=
    exists_finding_of_control_mem (.inr rfl) pathUnescaped line inReport span inLine escaped
  exact findingsUnescaped found inEvidence finding inFindings inFinding

theorem newline_not_mem_emphasised (pathIsLine : '\n' ∉ path.toList) :
    ∀ line ∈ lines path evidence verdict, ∀ span ∈ line,
      span.emphasis ≠ none → '\n' ∉ span.text.toList := by
  intro line inReport span inLine emphasised broken
  exact emphasised
    (exists_finding_of_control_mem (.inl rfl) pathIsLine line inReport span inLine broken).1

/-! ## The parts of a report -/

theorem lines_append_cons (path : String) (before : List Evidence) (found : Evidence)
    (after : List Evidence) (verdict : Verdict) :
    lines path (before ++ found :: after) verdict =
      (lines path before verdict ++ [heading found]) ++ details found ++
        ([] :: after.flatMap block) := by
  simp [lines, block]

theorem text_details {found : Evidence} (positive : found.findings ≠ []) (color : Bool) :
    StyledLine.text color (details found) =
      String.join (found.findings.map fun finding => "  • " ++ finding ++ "\n") := by
  have rendered (finding : String) :
      StyledLine.render color [.plain ("  • " ++ finding)] =
        ("  • " ++ finding ++ "\n").toList := by
    cases color <;> simp [StyledLine.render, Span.render, Span.plain]
  have nonempty : found.findings.isEmpty = false := List.isEmpty_eq_false_iff.mpr positive
  apply String.toList_injective
  rw [details, nonempty, StyledLine.text, String.toList_join, String.toList_ofList]
  simp only [Bool.false_eq_true, if_false, List.flatMap_map, rendered]

theorem exists_text_around
    (unescaped : ∀ line ∈ lines path evidence verdict, ∀ span ∈ line, '\x1b' ∉ span.text.toList)
    {before after : List Evidence} {found : Evidence}
    (split : evidence = before ++ found :: after) :
    ∃ head tail : Bool → String,
      (∀ color, prettyText color path evidence verdict =
        head color ++ String.join (found.findings.map fun finding => "  • " ++ finding ++ "\n") ++
          tail color) ∧
      Escape.remove (head true).toList = (head false).toList ∧
      Escape.remove (tail true).toList = (tail false).toList := by
  by_cases none : found.findings = []
  · -- There is nothing to place, so the whole report stands before it.
    refine ⟨fun color => prettyText color path evidence verdict, fun _ => "", ?_, ?_, ?_⟩
    · intro color
      simp [none]
    · simp only [prettyText_eq]
      exact StyledLine.remove_text unescaped
    · exact Escape.removesTo_of_not_mem List.not_mem_nil |>.remove_eq
  · have parts := lines_append_cons path before found after verdict
    rw [← split] at parts
    rw [parts, List.forall_mem_append, List.forall_mem_append] at unescaped
    obtain ⟨⟨inHead, -⟩, inTail⟩ := unescaped
    refine ⟨fun color => StyledLine.text color (lines path before verdict ++ [heading found]),
      fun color => StyledLine.text color ([] :: after.flatMap block), ?_,
      StyledLine.remove_text inHead, StyledLine.remove_text inTail⟩
    intro color
    rw [prettyText_eq, parts, StyledLine.text_append, StyledLine.text_append,
      text_details none]

end Report

/-! ## Reports for programs -/

theorem CommandLine.run_json_eq {options : Options}
    (isJson : Format.ofName? options.format = some .json) (reasons : Reasons) (files : Files)
    (tools : Tools) (start : Instant) (sink : Sink) :
    run reasons options files tools start true sink =
      run reasons options files tools start false sink := by
  rcases options.passes_or_fails files with
    ⟨path, config, inspects, configures, valid⟩ | ⟨error, fault⟩
  · obtain ⟨format, accepted⟩ := inspects.exists_accepted configures valid
    have named := Format.ofName?_eq_some_iff.mpr accepted.known
    obtain rfl : format = .json := Option.some.inj (named.symm.trans isJson)
    obtain ⟨detectors, _, request_eq⟩ := Request.ofOptions_accepted accepted
    simp only [run, request_eq, perform, Report.write]
  · simp only [run, fault.ofOptions_eq]

/-- If neither the path nor a finding has an escape character, the report for people with colour is
the one without once its escape sequences are removed, every style in it is reset before the line
ends when the path is on one line, and the findings of each technique are the same lines in both, at
places that differ by escape sequences only. The report for programs is the same with and without
colour, and so is every run that writes one. -/
theorem color_is_presentation_only {path : String} {evidence : List Evidence} (verdict : Verdict)
    (pathUnescaped : '\x1b' ∉ path.toList)
    (findingsUnescaped : ∀ found ∈ evidence, ∀ finding ∈ found.findings,
      '\x1b' ∉ finding.toList) :
    let report := fun color => Report.prettyText color path evidence verdict
    Escape.remove (report true).toList = (report false).toList ∧
      ('\n' ∉ path.toList → Escape.Closes (report true).toList) ∧
      (∀ before found after, evidence = before ++ found :: after →
        ∃ head tail : Bool → String,
          (∀ color, report color =
            head color ++
              String.join (found.findings.map fun finding => "  • " ++ finding ++ "\n") ++
              tail color) ∧
          Escape.remove (head true).toList = (head false).toList ∧
          Escape.remove (tail true).toList = (tail false).toList) ∧
      (∀ (path : String) (evidence : List Evidence) (verdict : Verdict),
        Report.write .json true path evidence verdict =
          Report.write .json false path evidence verdict) ∧
      ∀ (reasons : Reasons) (options : Options) (files : Files) (tools : Tools) (start : Instant)
        (sink : Sink), Format.ofName? options.format = some .json →
        CommandLine.run reasons options files tools start true sink =
          CommandLine.run reasons options files tools start false sink := by
  intro report
  have unescaped : ∀ line ∈ Report.lines path evidence verdict, ∀ span ∈ line,
      '\x1b' ∉ span.text.toList :=
    Report.escape_not_mem_text pathUnescaped findingsUnescaped
  refine ⟨?_, ?_, ?_, fun _ _ _ => rfl, ?_⟩
  · simp only [report, Report.prettyText_eq]
    exact StyledLine.remove_text unescaped
  · intro pathIsLine
    simp only [report, Report.prettyText_eq]
    exact StyledLine.closes_text unescaped (Report.newline_not_mem_emphasised pathIsLine)
  · intro before found after
    exact Report.exists_text_around unescaped
  · intro reasons options files tools start sink isJson
    exact CommandLine.run_json_eq isJson reasons files tools start sink

/-- Evidence whose findings read as escape sequences without the escape character. -/
def bracketed : Evidence := .ofFound .strings ["[1;32mrustc", "[0m"] false

/-- A report on such findings differs with colour, and they stand in it as they are. -/
theorem color_is_presentation_only_bracketed :
    let evidence := [.negative .symbols, bracketed]
    let report := fun color =>
      Report.prettyText color "/tmp/[0m" evidence (Verdict.ofEvidence evidence)
    report true ≠ report false ∧ Escape.remove (report true).toList = (report false).toList ∧
      Escape.Closes (report true).toList ∧
      ∃ head tail : Bool → String, ∀ color,
        report color = head color ++ "  • [1;32mrustc\n  • [0m\n" ++ tail color := by
  intro evidence report
  have pathUnescaped : '\x1b' ∉ "/tmp/[0m".toList := by decide
  have findingsUnescaped : ∀ found ∈ evidence, ∀ finding ∈ found.findings,
      '\x1b' ∉ finding.toList := by
    decide
  obtain ⟨removed, closes, around, -, -⟩ :=
    color_is_presentation_only (Verdict.ofEvidence evidence) pathUnescaped findingsUnescaped
  obtain ⟨head, tail, parts, -, -⟩ := around [.negative .symbols] bracketed [] rfl
  exact ⟨by decide +kernel, removed, closes (by decide), head, tail, parts⟩

end Toolmark
