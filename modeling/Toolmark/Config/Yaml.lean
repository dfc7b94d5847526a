import Toolmark.Config
import Toolmark.Yaml.Decode

/-!
# Configurations as YAML

The form in which configurations are written by hand. Every field may be absent, and an empty text is
the configuration that changes nothing.
-/

namespace Toolmark

namespace Override

/-- The override that a node is. -/
def ofNode? (document : Yaml.Document) (node : Yaml.Node) : Option Override := do
  let entries ← document.toEntries? node
  let patterns ← Yaml.Document.field? entries "patterns"
  let regex ← Yaml.Document.field? entries "regex"
  let cap ← Yaml.Document.field? entries "cap"
  some
    { patterns := ← Yaml.Document.defaulted none
        (document.toOption? (document.toList? document.toText?)) patterns
      regex := ← Yaml.Document.defaulted none (document.toOption? document.toText?) regex
      cap := ← Yaml.Document.defaulted none (document.toOption? document.toWord?) cap }

end Override

namespace Overrides

/-- The overrides that a node is. -/
def ofNode? (document : Yaml.Document) (node : Yaml.Node) : Option Overrides := do
  let entries ← document.toEntries? node
  let overrides ← entries.mapM fun entry =>
    (Override.ofNode? document entry.2).map fun override => (entry.1, override)
  return ofList overrides

end Overrides

namespace Config

/-- The configuration that a node is. -/
def ofNode? (document : Yaml.Document) (node : Yaml.Node) : Option Config := do
  let entries ← document.toEntries? node
  let timeout ← Yaml.Document.field? entries "timeout_secs"
  let detectors ← Yaml.Document.field? entries "detectors"
  some
    { timeoutSecs :=
        ← Yaml.Document.defaulted none (document.toOption? document.toWord?) timeout
      detectors :=
        ← Yaml.Document.defaulted Overrides.empty (Overrides.ofNode? document) detectors }

/-- The configuration that a text is. -/
def ofYaml? (text : String) : Option Config := do
  let document ← Yaml.Document.ofText? text
  match document.root with
  | none => some default
  | some root => ofNode? document root

end Config

end Toolmark
