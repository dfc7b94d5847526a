import Toolmark.Shell.Pattern

/-!
# Fields

Words are expanded to parts, and parts are joined to fields. Only the value of an expansion outside
quotes is split.
-/

namespace Toolmark.Shell

/-- A part of an expanded word. -/
inductive Part where
  /-- Text that is not split. -/
  | fixed (text : Octets) (isQuoted : Bool)
  /-- Text that is split. -/
  | loose (text : Octets)
  /-- The end of a field. -/
  | boundary
deriving DecidableEq, Repr

namespace Part

/-- The part that holds the value of an expansion. -/
def ofValue (isQuoted : Bool) (text : Octets) : Part :=
  if isQuoted then fixed text true else loose text

/-- The part within quotes. -/
def quote : Part → Part
  | loose text => fixed text true
  | part => part

/-- The parts of fields that are kept apart. -/
def ofFields : List Octets → List Part
  | [] => []
  | [field] => [fixed field true]
  | field :: rest => fixed field true :: boundary :: ofFields rest

/-- A blank character. -/
def isBlank (c : Char) : Bool := [' ', '\t', '\n'].contains c

/-- The characters at which values are split when nothing else is said. -/
def usualSeparators : Octets := [' ', '\t', '\n']

/-- The fields that a value completes and the field that it leaves open, behind an open field given
last character first. Blank separators end an open field, every other one ends a field. -/
def split (separators : Octets) (current : Option Octets) : Octets → List Octets × Option Octets
  | [] => ([], current)
  | c :: rest =>
      if separators.contains c then
        let (fields, last) := split separators none rest
        let ended := if isBlank c then current.toList else [current.getD []]
        (ended.map List.reverse ++ fields, last)
      else split separators (some (c :: current.getD [])) rest

/-- The fields of parts behind an open field given last character first. -/
def fieldsAfter (separators : Octets) (current : Option Octets) : List Part → List Octets
  | [] => current.toList.map List.reverse
  | fixed text isQuoted :: rest =>
      if text.isEmpty && !isQuoted then fieldsAfter separators current rest
      else fieldsAfter separators (some (text.reverse ++ current.getD [])) rest
  | boundary :: rest =>
      current.toList.map List.reverse ++ fieldsAfter separators none rest
  | loose text :: rest =>
      let (fields, last) := split separators current text
      fields ++ fieldsAfter separators last rest

/-- The fields of parts. -/
def fields (separators : Octets) (parts : List Part) : List Octets :=
  fieldsAfter separators none parts

/-- The characters of a part, each marked as quoted or not. -/
def marked : Part → List (Char × Bool)
  | fixed text isQuoted => text.map fun c => (c, isQuoted)
  | loose text => text.map fun c => (c, false)
  | boundary => [(' ', true)]

/-- The text of parts that are not split. -/
def text (parts : List Part) : Octets := (parts.flatMap marked).map (·.1)

/-- The pattern that parts stand for. -/
def pattern (parts : List Part) : Pattern := Pattern.ofMarked (parts.flatMap marked)

end Part

end Toolmark.Shell
