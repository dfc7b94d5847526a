import Toolmark.Config.Yaml
import Toolmark.Text.Utf8

/-!
# Configuration files

A configuration is read from the bytes of a file, which have to be the UTF-8 form of a YAML text.
-/

namespace Toolmark

/-- Why a file gives no configuration. -/
inductive FileError where
  /-- The file cannot be read. -/
  | unreadable (reason : String)
  /-- The file is no text. -/
  | notText
  /-- The text is no configuration. -/
  | notConfig (text : String)
deriving DecidableEq, Repr

namespace FileError

/-- The reason given for bytes that are no text. -/
def textReason : String := "stream did not contain valid UTF-8"

/-- The text of a failure. -/
def message (reasons : Reasons) : FileError → String
  | unreadable reason => reason
  | notText => textReason
  | notConfig text => reasons.config text

end FileError

namespace Config

/-- The configuration in the bytes of a file. -/
def ofBytes (bytes : List UInt8) : Except FileError Config :=
  match Text.Utf8.decode? bytes with
  | none => .error .notText
  | some text =>
      match ofYaml? text with
      | some config => .ok config
      | none => .error (.notConfig text)

/-- The configuration in a file, given its bytes or the reason why it cannot be read. -/
def ofFile (content : Except String (List UInt8)) : Except FileError Config :=
  match content with
  | .error reason => .error (.unreadable reason)
  | .ok bytes => ofBytes bytes

end Config

end Toolmark
