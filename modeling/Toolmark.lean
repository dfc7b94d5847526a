import Toolmark.Config.Document
import Toolmark.Main
import Toolmark.Proofs.Text.Lines
import Toolmark.Proofs.Text.Utf8
import Toolmark.Proofs.Text.Lowercase
import Toolmark.Proofs.Matcher
import Toolmark.Proofs.Scan
import Toolmark.Proofs.Evidence
import Toolmark.Proofs.Detector
import Toolmark.Proofs.Printed
import Toolmark.Proofs.CommandLine
import Toolmark.Proofs.Runner.Pool
import Toolmark.Proofs.Json.Token
import Toolmark.Proofs.Json.Spelling
import Toolmark.Proofs.Json.RoundTrip
import Toolmark.Proofs.Json.Decode
import Toolmark.Proofs.Report
import Toolmark.Proofs.Config.Effect
import Toolmark.Proofs.CommandLine.Refusal
import Toolmark.Proofs.Runner.Failure
import Toolmark.Proofs.Runner.Budget
import Toolmark.Proofs.Report.Lines
import Toolmark.Proofs.Runner.Clock
import Toolmark.Proofs.Runner.History
import Toolmark.Proofs.Config.EmptyOutput
import Toolmark.Proofs.Config.Entries
import Toolmark.Proofs.Config.Fault
import Toolmark.Proofs.Config.Merge
import Toolmark.Proofs.Scan.Window
import Toolmark.Proofs.Scan.Appended
import Toolmark.Proofs.CommandLine.FullSink
import Toolmark.Proofs.Report.Color
import Toolmark.Proofs.Scan.Rescan
import Toolmark.Proofs.Subsumption
import Toolmark.Proofs.Config.Lowered
import Toolmark.Proofs.Detector.Symbols
import Toolmark.Proofs.CommandLine.Deadline
import Toolmark.Proofs.Config.Fingerprints
import Toolmark.Proofs.Json.Rearranged
import Toolmark.Proofs.Config.Document
