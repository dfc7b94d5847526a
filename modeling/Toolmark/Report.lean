import Toolmark.Report.Document
import Toolmark.Report.Lines

/-!
# Reports

The outcome of a run is written in one of two forms.
-/

namespace Toolmark

/-- The form of a report. -/
inductive Format where
  /-- Lines for people. -/
  | pretty
  /-- A JSON document. -/
  | json
deriving DecidableEq, Repr

namespace Format

/-- The form with a given name. -/
def ofName? (name : String) : Option Format :=
  match name with
  | "pretty" => some pretty
  | "json" => some json
  | _ => none

end Format

namespace Report

/-- Writes the report in a given form. -/
def write (format : Format) (color : Bool) (path : String) (evidence : List Evidence)
    (verdict : Verdict) : Writer Unit :=
  match format with
  | .pretty => writePretty color path evidence verdict
  | .json => writeJson path evidence verdict

end Report

end Toolmark
