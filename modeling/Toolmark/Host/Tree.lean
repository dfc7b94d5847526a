import Toolmark.Host.Fault
import Toolmark.Text.Utf8

/-!
# Trees of files

The files of a host as a value, and the place that a path leads to. A path is followed name by name,
and every name but the last has to lead to a directory.
-/

namespace Toolmark.Host

/-- A place in a tree, as the names on the way from the root. -/
abbrev Place := List String

/-- What stands at a place. -/
inductive Entry where
  /-- A directory. -/
  | directory
  /-- A file with its bytes. -/
  | file (content : List UInt8) (runnable : Bool)
  /-- A program of the system. -/
  | program (name : String)
deriving DecidableEq, Repr

/-- A tree of files. -/
structure Tree where
  /-- The entries, each with its place. -/
  entries : List (Place × Entry)
deriving Repr

namespace Tree

/-- The tree that holds nothing but its root. -/
def empty : Tree := ⟨[]⟩

/-- The entry at a place. -/
def at? (tree : Tree) (place : Place) : Option Entry :=
  if place.isEmpty then some .directory
  else (tree.entries.find? fun entry => entry.1 = place).map (·.2)

/-- The tree with an entry at a place. -/
def put (tree : Tree) (place : Place) (entry : Entry) : Tree :=
  ⟨(place, entry) :: tree.entries.filter fun other => other.1 ≠ place⟩

/-- The tree with a directory at a place and at every place on the way to it. -/
def makeDirectory (tree : Tree) (place : Place) : Tree :=
  (List.range place.length).foldl
    (fun tree count =>
      let above := place.take (count + 1)
      if (tree.at? above).isSome then tree else tree.put above .directory)
    tree

/-- The tree with an entry at a place, in a directory. -/
def add (tree : Tree) (place : Place) (entry : Entry) : Tree :=
  (tree.makeDirectory place.dropLast).put place entry

/-- The greatest number of bytes of a name. -/
def nameLimit : Nat := 255

/-- The greatest number of bytes of a path. -/
def pathLimit : Nat := 4095

/-- The place that one more name leads to. -/
def step (tree : Tree) (place : Place) (name : String) : Except Fault Place :=
  if tree.at? place ≠ some .directory then .error .notDirectory
  else if name = "." then .ok place
  else if name = ".." then .ok place.dropLast
  else if nameLimit < name.utf8ByteSize then .error .nameTooLong
  else
    let below := place ++ [name]
    if (tree.at? below).isSome then .ok below else .error .missing

/-- The place that a path leads to from a directory. -/
def resolve (tree : Tree) (directory : Place) (path : String) : Except Fault Place :=
  if path.contains '\x00' then .error .nullInPath
  else if path.isEmpty then .error .missing
  else if pathLimit < path.utf8ByteSize then .error .nameTooLong
  else do
    let start := if path.startsWith "/" then [] else directory
    let place ← ((path.splitOn "/").filter (!·.isEmpty)).foldlM tree.step start
    if path.endsWith "/" && tree.at? place ≠ some .directory then .error .notDirectory
    else .ok place

/-- The entry that a path leads to from a directory. -/
def find (tree : Tree) (directory : Place) (path : String) : Except Fault Entry := do
  let place ← tree.resolve directory path
  match tree.at? place with
  | some entry => .ok entry
  | none => .error .missing

/-- The first bytes of every program of the system, which are no text. -/
def programBytes : List UInt8 := [0x7F, 0x45, 0x4C, 0x46, 2, 1, 1, 0, 0xFF]

/-- The bytes of the file that a path leads to. -/
def read (tree : Tree) (directory : Place) (path : String) : Except Fault (List UInt8) := do
  match ← tree.find directory path with
  | .directory => .error .isDirectory
  | .file content _ => .ok content
  | .program _ => .ok programBytes

end Tree

end Toolmark.Host
