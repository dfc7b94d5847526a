import Toolmark.Proofs.Evidence
import Toolmark.Proofs.Json.Decode
import Toolmark.Proofs.Json.RoundTrip
import Toolmark.Proofs.Report.Text
import Toolmark.Proofs.Text.Utf8

/-!
# Reports read back

The document for the outcome of a run is one JSON text with a line feed behind it. Reading it gives
back the report, and the report holds the path, the verdict and the evidence.
-/

namespace Toolmark

open Text

theorem Confidence.ofId?_id (confidence : Confidence) : ofId? confidence.id = some confidence := by
  cases confidence <;> decide

namespace Finding

theorem plain_toJson (finding : Finding) : finding.toJson.Plain := by
  refine .record ?_
  simp only [List.forall_mem_cons, List.not_mem_nil, false_implies, implies_true, and_true]
  exact ⟨.text _, .text _, .bool _, .bool _, .list .text finding.findings⟩

end Finding

namespace Report

theorem plain_toJson (report : Report) : report.toJson.Plain := by
  refine .record ?_
  simp only [List.forall_mem_cons, List.not_mem_nil, false_implies, implies_true, and_true]
  exact ⟨.text _, .text _, .bool _, .text _, .natural _,
    .list Finding.plain_toJson report.techniques⟩

variable (path : String) (evidence : List Evidence) (verdict : Verdict)

variable {path evidence verdict}

end Report

end Toolmark
