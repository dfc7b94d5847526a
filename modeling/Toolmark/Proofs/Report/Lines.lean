import Mathlib.Data.List.Forall2
import Toolmark.Proofs.Evidence
import Toolmark.Proofs.Report.Text
import Toolmark.Proofs.Text.Lines
import Toolmark.Proofs.Verdict

/-!
# Reports for people tell everything apart

Without colour the report for people is cut at its line feeds into the lines that were written, and
the lines below its header are cut at the empty ones into one block for each technique. A block
tells its technique, whether there is evidence, and every finding. So no text in a path or a finding
passes for another part of the report, unless it holds a line feed itself.
-/

namespace Toolmark

open Text

theorem Technique.name_injective {left right : Technique} (same : left.name = right.name) :
    left = right := by
  cases left <;> cases right <;> first | rfl | exact absurd same (by decide)

namespace Evidence

/-- What a report for people tells about one technique is the same. -/
structure Agrees (left right : Evidence) : Prop where
  technique_eq : left.technique = right.technique
  isPositive_eq : left.isPositive = right.isPositive
  /-- The findings with the marker behind them. -/
  findings_eq : left.findings = right.findings

end Evidence

theorem Verdict.votes_eq_of_agrees {left right : List Evidence}
    (agrees : List.Forall₂ Evidence.Agrees left right) : votes left = votes right := by
  refine Nat.le_antisymm (votes_le_of_forall₂ (agrees.imp ?_))
    (votes_le_of_forall₂ (agrees.flip.imp ?_))
  · exact fun first second agree positive => agree.isPositive_eq ▸ positive
  · exact fun first second agree positive => agree.isPositive_eq ▸ positive

/-- The characters of a line of styled text. -/
def StyledLine.characters (line : StyledLine) : List Char :=
  line.flatMap fun span => span.text.toList

theorem StyledLine.render_false (line : StyledLine) :
    line.render false = line.characters ++ ['\n'] :=
  rfl

namespace Report

/-! ## One technique -/

/-- The characters of the lines about one technique, but for the empty line behind them. -/
def entry (evidence : Evidence) : List (List Char) :=
  (heading evidence :: details evidence).map StyledLine.characters

theorem map_characters_block (evidence : Evidence) :
    (block evidence).map StyledLine.characters = entry evidence ++ [[]] := by
  simp [block, entry, StyledLine.characters]

theorem characters_heading (evidence : Evidence) :
    (heading evidence).characters =
      (if evidence.isPositive then '✅' else '❌') ::
        ' ' :: (evidence.technique.name.toList ++ [':']) := by
  unfold heading
  split <;> simp [StyledLine.characters, Span.plain, Span.styled]

theorem map_characters_details (evidence : Evidence) :
    (details evidence).map StyledLine.characters =
      (if evidence.isPositive then evidence.findings else ["No evidence found"]).map
        fun finding => [' ', ' ', '•', ' '] ++ finding.toList := by
  unfold details
  cases positive : evidence.isPositive with
  | false =>
      have none : evidence.findings = [] := evidence.findings_eq_nil_iff.mpr positive
      simp [none, StyledLine.characters, Span.plain, Span.styled]
  | true =>
      have some : evidence.findings.isEmpty = false := by
        rw [List.isEmpty_eq_false_iff, Ne, evidence.findings_eq_nil_iff, positive]
        exact Bool.noConfusion
      simp [some, StyledLine.characters, Span.plain]

/-- The lines about a technique tell everything about it. -/
theorem agrees_of_entry_eq {left right : Evidence} (same : entry left = entry right) :
    left.Agrees right := by
  obtain ⟨heading_eq, details_eq⟩ := List.cons_eq_cons.mp same
  rw [characters_heading, characters_heading] at heading_eq
  obtain ⟨glyph_eq, rest_eq⟩ := List.cons_eq_cons.mp heading_eq
  have name_eq := List.append_cancel_right (List.cons_eq_cons.mp rest_eq).2
  have isPositive_eq : left.isPositive = right.isPositive := by
    cases positive : left.isPositive <;> cases positive' : right.isPositive <;>
      first | rfl | simp [positive, positive'] at glyph_eq
  constructor
  case technique_eq => exact Technique.name_injective (String.toList_injective name_eq)
  case isPositive_eq => exact isPositive_eq
  case findings_eq =>
    rw [map_characters_details, map_characters_details, ← isPositive_eq] at details_eq
    have bulleted_injective : Function.Injective fun finding : String =>
        [' ', ' ', '•', ' '] ++ finding.toList :=
      fun _ _ bulleted_eq => String.toList_injective (List.append_cancel_left bulleted_eq)
    cases positive : left.isPositive with
    | false =>
        rw [left.findings_eq_nil_iff.mpr positive,
          right.findings_eq_nil_iff.mpr (isPositive_eq ▸ positive)]
    | true =>
        rw [if_pos positive, if_pos positive] at details_eq
        exact bulleted_injective.list_map details_eq

theorem nil_not_mem_entry (evidence : Evidence) : [] ∉ entry evidence := by
  rw [entry, List.map_cons, characters_heading, map_characters_details]
  simp

/-! ## Line feeds -/

/-- A text has no line feed. -/
def IsLine (text : String) : Prop := '\n' ∉ text.toList

instance (text : String) : Decidable (IsLine text) :=
  inferInstanceAs (Decidable ('\n' ∉ text.toList))

theorem newline_not_mem_entry {evidence : Evidence}
    (isLine : ∀ finding ∈ evidence.findings, IsLine finding) :
    ∀ line ∈ entry evidence, '\n' ∉ line := by
  have name : '\n' ∉ evidence.technique.name.toList := by
    cases evidence.technique <;> decide
  have nothing : IsLine "No evidence found" := by decide
  rw [entry, List.map_cons, characters_heading, map_characters_details, List.forall_mem_cons,
    List.forall_mem_map]
  constructor
  · split <;> simp [name]
  · intro finding member
    have finding_isLine : IsLine finding := by
      split at member
      · exact isLine finding member
      · exact List.mem_singleton.mp member ▸ nothing
    simpa [IsLine] using finding_isLine

theorem newline_not_mem_summary {path : String} (isLine : IsLine path) (verdict : Verdict) :
    '\n' ∉ (summary path verdict).characters := by
  have words : '\n' ∉ verdict.confidence.words.toList := by
    cases verdict.confidence <;> decide
  unfold IsLine at isLine
  unfold summary
  split <;> simp [StyledLine.characters, Span.styled, isLine, words]

/-! ## The whole report -/

variable {path otherPath : String} {evidence otherEvidence : List Evidence}
  {verdict otherVerdict : Verdict}

theorem toList_prettyText (path : String) (evidence : List Evidence) (verdict : Verdict) :
    (prettyText false path evidence verdict).toList =
      ((lines path evidence verdict).map StyledLine.characters).flatMap (· ++ ['\n']) := by
  rw [prettyText_eq, StyledLine.text, String.toList_ofList, List.flatMap_map]
  exact List.flatMap_congr fun line _ => line.render_false

/-- The characters of the lines between the summary and the first technique. -/
def header : List (List Char) := [[], "Detailed analysis:".toList, "=================".toList]

theorem map_characters_lines (path : String) (evidence : List Evidence) (verdict : Verdict) :
    (lines path evidence verdict).map StyledLine.characters =
      (summary path verdict).characters ::
        (header ++ (evidence.map entry).flatMap (· ++ [[]])) := by
  rw [lines, List.map_append, List.map_flatMap, List.flatMap_map]
  simp only [map_characters_block]
  simp [header, StyledLine.characters, Span.plain]

/-- The path and the findings stay on their lines. -/
structure OnLines (path : String) (evidence : List Evidence) : Prop where
  path : IsLine path
  findings : ∀ found ∈ evidence, ∀ finding ∈ found.findings, IsLine finding

theorem OnLines.newline_not_mem (onLines : OnLines path evidence) (verdict : Verdict) :
    ∀ line ∈ (lines path evidence verdict).map StyledLine.characters, '\n' ∉ line := by
  rw [map_characters_lines, List.forall_mem_cons, List.forall_mem_append]
  refine ⟨newline_not_mem_summary onLines.path verdict, by decide, ?_⟩
  intro line member
  obtain ⟨_, inEntries, inBlock⟩ := List.mem_flatMap.mp member
  obtain ⟨found, inEvidence, rfl⟩ := List.mem_map.mp inEntries
  rcases List.mem_append.mp inBlock with inEntry | isLast
  · exact newline_not_mem_entry (onLines.findings found inEvidence) line inEntry
  · rw [List.mem_singleton.mp isLast]
    exact List.not_mem_nil

theorem map_characters_lines_eq (onLines : OnLines path evidence)
    (otherOnLines : OnLines otherPath otherEvidence)
    (same : prettyText false path evidence verdict =
      prettyText false otherPath otherEvidence otherVerdict) :
    (lines path evidence verdict).map StyledLine.characters =
      (lines otherPath otherEvidence otherVerdict).map StyledLine.characters := by
  have characters_eq := congrArg String.toList same
  rw [toList_prettyText, toList_prettyText] at characters_eq
  exact eq_of_flatMap_closed_eq (onLines.newline_not_mem verdict)
    (otherOnLines.newline_not_mem otherVerdict) characters_eq

theorem agrees_of_entries_eq
    (same : (evidence.map entry).flatMap (· ++ [[]]) =
      (otherEvidence.map entry).flatMap (· ++ [[]])) :
    List.Forall₂ Evidence.Agrees evidence otherEvidence := by
  have noneEmpty (evidence : List Evidence) : ∀ block ∈ evidence.map entry, [] ∉ block := by
    simp [nil_not_mem_entry]
  have entries_eq := eq_of_flatMap_closed_eq (noneEmpty _) (noneEmpty _) same
  rw [← List.forall₂_eq_eq_eq, List.forall₂_map_left_iff, List.forall₂_map_right_iff] at entries_eq
  exact entries_eq.imp fun _ _ => agrees_of_entry_eq

theorem path_eq_of_summary_eq
    (same : (summary path verdict).characters = (summary otherPath verdict).characters) :
    path = otherPath := by
  unfold summary at same
  split at same <;>
    simpa [StyledLine.characters, Span.styled, String.toList_inj] using same

end Report

/-- Without colour, equal reports for people come from the same path and from evidence that agrees
position by position on the technique, on whether there is any, and on all findings with the marker,
when no path and no finding holds a line feed. -/
theorem pretty_report_unambiguous {path otherPath : String} {evidence otherEvidence : List Evidence}
    (pathIsLine : '\n' ∉ path.toList) (otherPathIsLine : '\n' ∉ otherPath.toList)
    (findingsAreLines : ∀ found ∈ evidence, ∀ finding ∈ found.findings, '\n' ∉ finding.toList)
    (otherFindingsAreLines :
      ∀ found ∈ otherEvidence, ∀ finding ∈ found.findings, '\n' ∉ finding.toList)
    (same : Report.prettyText false path evidence (Verdict.ofEvidence evidence) =
      Report.prettyText false otherPath otherEvidence (Verdict.ofEvidence otherEvidence)) :
    path = otherPath ∧ List.Forall₂ Evidence.Agrees evidence otherEvidence := by
  have lines_eq := Report.map_characters_lines_eq ⟨pathIsLine, findingsAreLines⟩
    ⟨otherPathIsLine, otherFindingsAreLines⟩ same
  rw [Report.map_characters_lines, Report.map_characters_lines] at lines_eq
  obtain ⟨summary_eq, rest_eq⟩ := List.cons_eq_cons.mp lines_eq
  have agrees := Report.agrees_of_entries_eq (List.append_cancel_left rest_eq)
  have verdict_eq : Verdict.ofEvidence evidence = Verdict.ofEvidence otherEvidence := by
    simp only [Verdict.ofEvidence, Verdict.votes_eq_of_agrees agrees, agrees.length_eq]
  rw [verdict_eq] at summary_eq
  exact ⟨Report.path_eq_of_summary_eq summary_eq, agrees⟩

/-- A search cut short. Its findings read as a technique line and as the words for no evidence. -/
def cutShort : Evidence := .ofFound .strings ["❌ Rust symbol names:", "No evidence found"] true

/-- A complete search whose last finding reads as the marker. -/
def markedByTool : Evidence :=
  .ofFound .strings ["❌ Rust symbol names:", "No evidence found", Evidence.marker] false

/-- Under a path that ends in the words of a summary both report the same. They are different, but
agree in what is told. -/
theorem pretty_report_unambiguous_marked :
    cutShort ≠ markedByTool ∧
      Report.prettyText false "a' appears to be compiled from Rust" [cutShort]
          (Verdict.ofEvidence [cutShort]) =
        Report.prettyText false "a' appears to be compiled from Rust" [markedByTool]
          (Verdict.ofEvidence [markedByTool]) ∧
      List.Forall₂ Evidence.Agrees [cutShort] [markedByTool] := by
  have lines_eq : Report.lines "a' appears to be compiled from Rust" [cutShort]
      (Verdict.ofEvidence [cutShort]) =
        Report.lines "a' appears to be compiled from Rust" [markedByTool]
          (Verdict.ofEvidence [markedByTool]) := rfl
  have same : Report.prettyText false "a' appears to be compiled from Rust" [cutShort]
      (Verdict.ofEvidence [cutShort]) =
        Report.prettyText false "a' appears to be compiled from Rust" [markedByTool]
          (Verdict.ofEvidence [markedByTool]) := by
    rw [Report.prettyText_eq, Report.prettyText_eq, lines_eq]
  refine ⟨by decide, same, (pretty_report_unambiguous ?_ ?_ ?_ ?_ same).2⟩
  all_goals decide

end Toolmark
