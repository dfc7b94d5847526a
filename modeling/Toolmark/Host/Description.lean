import Toolmark.Host
import Toolmark.Json.Decode

/-!
# Descriptions of hosts

A host described by a JSON value: the directories, files and programs of the working directory, the
programs that may not be run, the variables of processes, and whether the programs of the system are
found.
-/

namespace Toolmark.Host

/-- The bytes of a content, given as a text or byte by byte. -/
def contentOf? : Json → Option (List UInt8)
  | .array items =>
      items.mapM fun item => do
        let byte ← item.toWord?
        if byte < 256 then some byte.toUInt8 else none
  | value => value.toText?.map Text.Utf8.encode

/-- Names with their values. -/
def namedOf? {α : Type} (decode : Json → Option α) (value : Json) : Option (List (String × α)) := do
  let members ← value.toMembers?
  members.mapM fun member => (decode member.2).map fun value => (member.1, value)

/-- The host that a JSON value describes. -/
def ofJson? (value : Json) : Option Host := do
  match ← value.toRecord?
      ["directories", "files", "programs", "locked", "environment", "system"] with
  | [directories, files, programs, locked, environment, system] =>
      let directories ← Json.defaulted [] (Json.toList? Json.toText?) directories
      let files ← Json.defaulted [] (namedOf? contentOf?) files
      let programs ← Json.defaulted [] (namedOf? contentOf?) programs
      let locked ← Json.defaulted [] (Json.toList? Json.toText?) locked
      let environment ← Json.defaulted [] (namedOf? Json.toText?) environment
      let hasSystem ← Json.defaulted false Json.toBool? system
      let host := directories.foldl withDirectory (initial hasSystem environment)
      let host := files.foldl (fun host file => host.withFile file.1 file.2 false) host
      some (programs.foldl
        (fun host program =>
          host.withFile ("bin/" ++ program.1) program.2 (!locked.contains program.1))
        host)
  | _ => failure

end Toolmark.Host
