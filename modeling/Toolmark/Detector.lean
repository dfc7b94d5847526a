import Toolmark.Evidence
import Toolmark.Log
import Toolmark.Scan
import Toolmark.Tool

/-!
# Detectors

A detector joins a technique to the tool that it needs and to the reading of the tool's output. A
tool that fails counts as a tool that printed nothing of interest.
-/

namespace Toolmark

/-- A technique with its tool and the reading of the tool's output. -/
structure Detector where
  /-- The technique. -/
  technique : Technique
  /-- The command line of the tool. -/
  tool : Invocation
  /-- The fingerprints sought in each line. -/
  matcher : Matcher
  /-- The form of the findings. -/
  style : Style
  /-- The number of findings at which a scan stops. -/
  cap : Nat
deriving Repr

namespace Detector

/-- The evidence in the output of the tool. -/
def scan (detector : Detector) (output : String) : Evidence :=
  let result := Scan.run output detector.matcher detector.style detector.cap
  Evidence.ofFound detector.technique result.findings result.truncated

/-- The event for a tool that gave no output. -/
def unavailable (detector : Detector) (failure : Failure) : Event where
  level := .debug
  origin := .detector
  message := "tool unavailable, no evidence"
  fields := [("technique", detector.technique.id), ("error", failure.message)]

/-- The evidence that the result of the tool gives. -/
def evaluate (detector : Detector) : ToolResult → Evidence
  | .ok output => detector.scan output
  | .error _ => Evidence.negative detector.technique

/-- The events that the result of the tool causes. -/
def evaluationLog (detector : Detector) : ToolResult → List Event
  | .ok _ => []
  | .error failure => [detector.unavailable failure]

/-! ## Built-in detectors -/

/-- The detector of texts. -/
def strings : Detector where
  technique := .strings
  tool := ⟨"strings", []⟩
  matcher := Matcher.ofPatterns
    ["rust", "rustc", "cargo", "core::result::Result", "core::option::Option", "std::panic",
      "alloc::", "thread 'main' panicked"]
  style := .verbatim
  cap := 5

/-- The regular expression for mangled names: the prefix of such a name, and the word `rust`
anywhere behind it. -/
def symbolPattern : Regex where
  source := "_ZN.*rust.*"
  expr := ((Regex.Pattern.read? "_ZN.*rust.*").map fun read => read.1.toExpr).getD .empty

/-- The detector of mangled names. -/
def symbols : Detector where
  technique := .symbols
  tool := ⟨"nm", ["-a"]⟩
  matcher := .pattern symbolPattern
  style := .verbatim
  cap := 5

/-- The detector of headers and sections. -/
def sections : Detector where
  technique := .sections
  tool := ⟨"readelf", ["-a"]⟩
  matcher := Matcher.ofPatterns ["rust", "rustc", ".rust_", "core::fmt", "core::panicking"]
  style := .trimmed
  cap := 5

/-- The detector of allocator entry points. -/
def allocator : Detector where
  technique := .allocator
  tool := ⟨"nm", ["-D"]⟩
  matcher := Matcher.ofPatterns
    ["__rdl_alloc", "__rdl_dealloc", "__rdl_realloc", "__rdl_alloc_zeroed", "__rust_alloc",
      "__rust_dealloc", "__rust_realloc"]
  style := .verbatim
  cap := 5

/-- The detector of panic machinery. -/
def panics : Detector where
  technique := .panics
  tool := ⟨"objdump", ["-d"]⟩
  matcher := Matcher.ofPatterns ["panic", "core::panicking", "rust_panic", "rust_begin_unwind"]
  style := .context 2 "Found panic-related code"
  cap := 3

/-- The built-in detector of a technique. -/
def builtIn : Technique → Detector
  | .strings => strings
  | .symbols => symbols
  | .sections => sections
  | .allocator => allocator
  | .panics => panics

/-- The built-in detectors in the order of registration. -/
def allBuiltIn : List Detector := Technique.all.map builtIn

end Detector

end Toolmark
