import Toolmark.Styled
import Toolmark.Verdict

/-!
# Reports for people

The verdict on one line, and below it what each technique found.
-/

namespace Toolmark

namespace Report

/-- The sign of something found. -/
def foundGlyph : String := "✅"

/-- The sign of nothing found. -/
def missingGlyph : String := "❌"

/-- Writes the line that tells the verdict. -/
def writeSummary (color : Bool) (path : String) (verdict : Verdict) : Writer Unit :=
  if verdict.isMatch then
    let line := foundGlyph ++ " The binary '" ++ path ++
      "' appears to be compiled from Rust (confidence: " ++ verdict.confidence.words ++ ")"
    .format color [.styled .boldGreen line, .plain "\n"]
  else
    let line := missingGlyph ++ " The binary '" ++ path ++
      "' does not appear to be compiled from Rust"
    .format color [.styled .boldRed line, .plain "\n"]

/-- Writes the line that names a technique. -/
def writeHeading (color : Bool) (evidence : Evidence) : Writer Unit :=
  let name := evidence.technique.name
  if evidence.isPositive then
    .format color [.plain foundGlyph, .plain " ", .styled .green name, .plain ":\n"]
  else
    .format color [.plain missingGlyph, .plain " ", .styled .red name, .plain ":\n"]

/-- Writes the lines below the name of a technique. -/
def writeDetails (color : Bool) (evidence : Evidence) : Writer Unit :=
  if evidence.findings.isEmpty then
    .format color [.plain "  • ", .styled .faint "No evidence found", .plain "\n"]
  else
    evidence.findings.forM fun finding =>
      Writer.format color [.plain "  • ", .plain finding, .plain "\n"]

/-- Writes the lines about one technique. -/
def writeEvidence (color : Bool) (evidence : Evidence) : Writer Unit := do
  writeHeading color evidence
  writeDetails color evidence

/-- Writes the report for people. -/
def writePretty (color : Bool) (path : String) (evidence : List Evidence) (verdict : Verdict) :
    Writer Unit := do
  writeSummary color path verdict
  Writer.format color [.plain "\n"]
  Writer.format color [.plain "Detailed analysis:\n"]
  Writer.format color [.plain "=================\n"]
  evidence.forM fun found => do
    writeEvidence color found
    Writer.format color [.plain "\n"]

end Report

end Toolmark
