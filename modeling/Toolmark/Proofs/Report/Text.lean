import Toolmark.Proofs.Sink
import Toolmark.Proofs.Styled
import Toolmark.Report

/-!
# Complete reports

The complete report is told line by line, or as a document. The writers of reports write this text
and no other, through however many pieces, loops and branches.
-/

namespace Toolmark

namespace Report

/-! ## Lines -/

/-- The line that tells the verdict. -/
def summary (path : String) (verdict : Verdict) : StyledLine :=
  if verdict.isMatch then
    [.styled .boldGreen
      ("✅ The binary '" ++ path ++ "' appears to be compiled from Rust (confidence: " ++
        verdict.confidence.words ++ ")")]
  else
    [.styled .boldRed
      ("❌ The binary '" ++ path ++ "' does not appear to be compiled from Rust")]

/-- The line that names a technique. -/
def heading (evidence : Evidence) : StyledLine :=
  if evidence.isPositive then
    [.plain "✅ ", .styled .green evidence.technique.name, .plain ":"]
  else
    [.plain "❌ ", .styled .red evidence.technique.name, .plain ":"]

/-- The lines below the name of a technique. -/
def details (evidence : Evidence) : List StyledLine :=
  if evidence.findings.isEmpty then [[.plain "  • ", .styled .faint "No evidence found"]]
  else evidence.findings.map fun finding => [.plain ("  • " ++ finding)]

/-- The lines about one technique, with an empty one behind them. -/
def block (evidence : Evidence) : List StyledLine :=
  heading evidence :: details evidence ++ [[]]

/-- The lines of the report for people. -/
def lines (path : String) (evidence : List Evidence) (verdict : Verdict) : List StyledLine :=
  [summary path verdict, [], [.plain "Detailed analysis:"], [.plain "================="]] ++
    evidence.flatMap block

/-- The text of the document for the outcome of a run. -/
def document (path : String) (evidence : List Evidence) (verdict : Verdict) : String :=
  (ofEvidence path evidence verdict).toJson.prettyText

/-- The complete report. -/
def text (format : Format) (color : Bool) (path : String) (evidence : List Evidence)
    (verdict : Verdict) : String :=
  match format with
  | .pretty => StyledLine.text color (lines path evidence verdict)
  | .json => document path evidence verdict ++ "\n"

/-! ## Writers -/

variable {color : Bool}

/-- Formatted parts are written as lines if they have the characters of these. -/
theorem writes_format {spans : List Span} {lines : List StyledLine}
    (same : spans.flatMap (Span.render color) = lines.flatMap (StyledLine.render color)) :
    (Writer.format color spans).Writes (StyledLine.text color lines) := by
  rw [StyledLine.text, ← same, ← Span.join_flatMap_pieces]
  exact Writer.writes_putAll (spans.flatMap (Span.pieces color))

theorem writes_forM {α : Type} {items : List α} {write : α → Writer Unit}
    {lines : α → List StyledLine}
    (writes : ∀ item ∈ items, (write item).Writes (StyledLine.text color (lines item))) :
    Writer.Writes (items.forM write) (StyledLine.text color (items.flatMap lines)) := by
  rw [StyledLine.text_flatMap]
  exact Writer.writes_forM writes

variable (color)

theorem writes_summary (path : String) (verdict : Verdict) :
    (writeSummary color path verdict).Writes (StyledLine.text color [summary path verdict]) := by
  unfold writeSummary summary
  split
  · refine writes_format ?_
    simp [StyledLine.render, foundGlyph]
  · refine writes_format ?_
    simp [StyledLine.render, missingGlyph]

theorem writes_heading (evidence : Evidence) :
    (writeHeading color evidence).Writes (StyledLine.text color [heading evidence]) := by
  unfold writeHeading heading
  split
  · refine writes_format ?_
    simp [StyledLine.render, foundGlyph]
  · refine writes_format ?_
    simp [StyledLine.render, missingGlyph]

theorem writes_details (evidence : Evidence) :
    (writeDetails color evidence).Writes (StyledLine.text color (details evidence)) := by
  unfold writeDetails details
  split
  · refine writes_format ?_
    simp [StyledLine.render]
  · rw [List.map_eq_flatMap]
    refine writes_forM fun finding _ => writes_format ?_
    simp [StyledLine.render]

theorem writes_evidence (evidence : Evidence) :
    (writeEvidence color evidence).Writes
      (StyledLine.text color (heading evidence :: details evidence)) := by
  rw [← List.singleton_append, StyledLine.text_append]
  exact (writes_heading color evidence).bind (writes_details color evidence)

theorem writes_pretty (path : String) (evidence : List Evidence) (verdict : Verdict) :
    (writePretty color path evidence verdict).Writes
      (StyledLine.text color (lines path evidence verdict)) := by
  have empty : (Writer.format color [.plain "\n"]).Writes (StyledLine.text color [[]]) :=
    writes_format (by simp [StyledLine.render])
  have title : (Writer.format color [.plain "Detailed analysis:\n"]).Writes
      (StyledLine.text color [[.plain "Detailed analysis:"]]) :=
    writes_format (by simp [StyledLine.render])
  have rule : (Writer.format color [.plain "=================\n"]).Writes
      (StyledLine.text color [[.plain "================="]]) :=
    writes_format (by simp [StyledLine.render])
  have blocks : Writer.Writes
      (evidence.forM fun found => do
        writeEvidence color found
        Writer.format color [.plain "\n"])
      (StyledLine.text color (evidence.flatMap block)) := by
    refine writes_forM fun found _ => ?_
    rw [block, StyledLine.text_append]
    exact (writes_evidence color found).bind empty
  have whole := (writes_summary color path verdict).bind
    (empty.bind (title.bind (rule.bind blocks)))
  simp only [← StyledLine.text_append] at whole
  exact whole

theorem writes_json (path : String) (evidence : List Evidence) (verdict : Verdict) :
    (writeJson path evidence verdict).Writes (document path evidence verdict ++ "\n") := by
  have join_eq : String.join [document path evidence verdict, "\n"] =
      document path evidence verdict ++ "\n" := by
    simp [String.join_cons]
  exact join_eq ▸ Writer.writes_putAll [document path evidence verdict, "\n"]

/-- The complete report is what is written. -/
theorem writes_text (format : Format) (path : String) (evidence : List Evidence)
    (verdict : Verdict) :
    (write format color path evidence verdict).Writes
      (text format color path evidence verdict) := by
  cases format with
  | pretty => exact writes_pretty color path evidence verdict
  | json => exact writes_json path evidence verdict

/-! ## What is written without a limit -/

/-- The text of the report for people, as it is written. -/
def prettyText (color : Bool) (path : String) (evidence : List Evidence) (verdict : Verdict) :
    String :=
  (writePretty color path evidence verdict).text

theorem prettyText_eq (color : Bool) (path : String) (evidence : List Evidence)
    (verdict : Verdict) :
    prettyText color path evidence verdict = StyledLine.text color (lines path evidence verdict) :=
  (writes_pretty color path evidence verdict).text_eq

end Report

end Toolmark
