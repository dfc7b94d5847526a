import Toolmark.Json.Decode
import Toolmark.Sink
import Toolmark.Verdict

/-!
# Reports for programs

The outcome of a run as an indented JSON document, which can be read back.
-/

namespace Toolmark

/-- The part of a document about one technique. -/
structure Finding where
  /-- The identifier of the technique. -/
  technique : String
  /-- The name of the technique. -/
  name : String
  /-- The technique found something. -/
  positive : Bool
  /-- There may be more findings. -/
  truncated : Bool
  /-- The findings. -/
  findings : List String
deriving DecidableEq, Repr

/-- A report for programs. -/
structure Report where
  /-- The version of the program. -/
  version : String
  /-- The path of the binary. -/
  path : String
  /-- The binary carries traces of the compiler. -/
  isRust : Bool
  /-- How sure this is. -/
  confidence : Confidence
  /-- The number of techniques that found something. -/
  positives : Nat
  /-- The findings of each technique. -/
  techniques : List Finding
deriving DecidableEq, Repr

namespace Finding

/-- The part of a document for the evidence of a technique. -/
def ofEvidence (evidence : Evidence) : Finding where
  technique := evidence.technique.id
  name := evidence.technique.name
  positive := evidence.isPositive
  truncated := evidence.truncated
  findings := evidence.findings

/-- The part of a document as a JSON value. -/
def toJson (finding : Finding) : Json :=
  .record
    [("technique", .text finding.technique), ("name", .text finding.name),
      ("positive", .bool finding.positive), ("truncated", .bool finding.truncated),
      ("findings", .array (finding.findings.map .text))]

/-- The part of a document that a JSON value is. -/
def ofJson? (value : Json) : Option Finding := do
  match ← value.toRecord? ["technique", "name", "positive", "truncated", "findings"] with
  | [technique, name, positive, truncated, findings] =>
      some
        { technique := ← Json.required Json.toText? technique
          name := ← Json.required Json.toText? name
          positive := ← Json.required Json.toBool? positive
          truncated := ← Json.required Json.toBool? truncated
          findings := ← Json.required (Json.toList? Json.toText?) findings }
  | _ => none

end Finding

namespace Confidence

/-- The confidence that a JSON value names. -/
def ofJson? (value : Json) : Option Confidence := value.toVariant?.bind ofId?

end Confidence

namespace Technique

/-- The technique that a JSON value names. -/
def ofJson? (value : Json) : Option Technique := value.toVariant?.bind ofId?

end Technique

namespace Verdict

/-- A verdict as a JSON value. -/
def toJson (verdict : Verdict) : Json :=
  .record
    [("is_match", .bool verdict.isMatch), ("confidence", .text verdict.confidence.id),
      ("positives", .natural verdict.positives), ("total", .natural verdict.total)]

/-- The verdict that a JSON value is. -/
def ofJson? (value : Json) : Option Verdict := do
  match ← value.toRecord? ["is_match", "confidence", "positives", "total"] with
  | [isMatch, confidence, positives, total] =>
      some
        { isMatch := ← Json.required Json.toBool? isMatch
          confidence := ← Json.required Confidence.ofJson? confidence
          positives := ← Json.required Json.toWord? positives
          total := ← Json.required Json.toWord? total }
  | _ => none

end Verdict

namespace Report

/-- The version of the program. -/
def programVersion : String := "0.1.0"

/-- The document for the outcome of a run. -/
def ofEvidence (path : String) (evidence : List Evidence) (verdict : Verdict) : Report where
  version := programVersion
  path := path
  isRust := verdict.isMatch
  confidence := verdict.confidence
  positives := verdict.positives
  techniques := evidence.map Finding.ofEvidence

/-- A document as a JSON value. -/
def toJson (report : Report) : Json :=
  .record
    [("version", .text report.version), ("path", .text report.path),
      ("is_rust", .bool report.isRust), ("confidence", .text report.confidence.id),
      ("positives", .natural report.positives),
      ("techniques", .array (report.techniques.map Finding.toJson))]

/-- The document that a JSON value is. -/
def ofJson? (value : Json) : Option Report := do
  match ← value.toRecord?
      ["version", "path", "is_rust", "confidence", "positives", "techniques"] with
  | [version, path, isRust, confidence, positives, techniques] =>
      some
        { version := ← Json.required Json.toText? version
          path := ← Json.required Json.toText? path
          isRust := ← Json.required Json.toBool? isRust
          confidence := ← Json.required Confidence.ofJson? confidence
          positives := ← Json.required Json.toWord? positives
          techniques := ← Json.required (Json.toList? Finding.ofJson?) techniques }
  | _ => none

/-- Writes the report for programs, with a line feed at its end. -/
def writeJson (path : String) (evidence : List Evidence) (verdict : Verdict) : Writer Unit :=
  .putAll [(ofEvidence path evidence verdict).toJson.prettyText, "\n"]

end Report

end Toolmark
