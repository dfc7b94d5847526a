import Toolmark.Config
import Toolmark.Json.Decode
import Toolmark.Json.Reader

/-!
# Configurations as JSON

The form in which configurations are written and read back. Every field may be absent.
-/

namespace Toolmark

namespace Override

/-- An override as a JSON value. -/
def toJson (override : Override) : Json :=
  .record
    [("patterns", .optional (override.patterns.map fun patterns => .array (patterns.map .text))),
      ("regex", .optional (override.regex.map .text)),
      ("cap", .optional (override.cap.map .natural))]

/-- The override that a JSON value is. -/
def ofJson? (value : Json) : Option Override := do
  match ← value.toRecord? ["patterns", "regex", "cap"] with
  | [patterns, regex, cap] =>
      some
        { patterns := ←
            Json.defaulted none (Json.toOption? (Json.toList? Json.toText?)) patterns
          regex := ← Json.defaulted none (Json.toOption? Json.toText?) regex
          cap := ← Json.defaulted none (Json.toOption? Json.toWord?) cap }
  | _ => failure

end Override

namespace Overrides

/-- Overrides as a JSON value. -/
def toJson (overrides : Overrides) : Json :=
  .record (overrides.entries.map fun entry => (entry.1, entry.2.toJson))

/-- The overrides that a JSON value is. -/
def ofJson? (value : Json) : Option Overrides := do
  let members ← value.toMembers?
  let entries ← members.mapM fun member =>
    (Override.ofJson? member.2).map fun override => (member.1, override)
  return ofList entries

end Overrides

namespace Config

/-- A configuration as a JSON value. -/
def toJson (config : Config) : Json :=
  .record
    [("timeout_secs", .optional (config.timeoutSecs.map .natural)),
      ("detectors", config.detectors.toJson)]

/-- The configuration that a JSON value is. -/
def ofJson? (value : Json) : Option Config := do
  match ← value.toRecord? ["timeout_secs", "detectors"] with
  | [timeout, detectors] =>
      some
        { timeoutSecs := ← Json.defaulted none (Json.toOption? Json.toWord?) timeout
          detectors := ← Json.defaulted Overrides.empty Overrides.ofJson? detectors }
  | _ => failure

/-- The configuration that a JSON text is. -/
def ofJsonText? (text : String) : Option Config := (Json.read? text).bind ofJson?

end Config

end Toolmark
