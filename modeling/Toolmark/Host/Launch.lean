import Toolmark.Host.Tree

/-!
# Starting programs

What is run when a program is named. A name without a slash is looked for in the directories of the
search path; a file that begins with the line of an interpreter is run by that interpreter.
-/

namespace Toolmark.Host

/-- A program of the system, ready to run. -/
structure Launch where
  /-- Its name. -/
  name : String
  /-- The arguments that an interpreter gets before the others. -/
  arguments : List String
deriving DecidableEq, Repr

namespace Launch

/-- The most interpreters that name each other. -/
def interpreterLimit : Nat := 5

/-- The bytes of the first line of a file, behind its first two bytes, if those announce an
interpreter. -/
def interpreterLine? : List UInt8 → Option (List UInt8)
  | 0x23 :: 0x21 :: rest => some (rest.takeWhile (· != 10))
  | _ => none

/-- The interpreter and its argument in a line. -/
def interpreter? (line : List UInt8) : Option (String × List String) :=
  let isBlank (c : Char) : Bool := c == ' ' || c == '\t'
  let trim (text : List Char) : List Char :=
    ((text.dropWhile isBlank).reverse.dropWhile isBlank).reverse
  let text := trim (Text.Utf8.decode line).toList
  let path := text.takeWhile fun c => !isBlank c
  let argument := trim (text.drop path.length)
  if path.isEmpty then none
  else some (String.ofList path, if argument.isEmpty then [] else [String.ofList argument])

/-- What is run when the program at a path is named, given a bound for the number of interpreters. -/
def ofPath (tree : Tree) (directory : Place) : Nat → String → Except Fault Launch
  | 0, _ => .error .tooManyLinks
  | bound + 1, path => do
      match ← tree.find directory path with
      | .directory => .error .denied
      | .program name => .ok ⟨name, []⟩
      | .file content runnable =>
          if !runnable then .error .denied
          else
            match (interpreterLine? content).bind interpreter? with
            | none => .error .noProgram
            | some (interpreter, argument) =>
                let launch ← ofPath tree directory bound interpreter
                .ok { launch with arguments := launch.arguments ++ argument ++ [path] }

/-- What is run when a name is looked for in directories, given a fault that has been met before. -/
def search (tree : Tree) (directory : Place) (name : String) (met : Fault) :
    List String → Except Fault Launch
  | [] => .error met
  | place :: rest =>
      let path := if place.isEmpty then name else place ++ "/" ++ name
      match ofPath tree directory interpreterLimit path with
      | .ok launch => .ok launch
      | .error .denied => search tree directory name .denied rest
      | .error .missing => search tree directory name met rest
      | .error .notDirectory => search tree directory name met rest
      | .error fault => .error fault

/-- What is run when a program is named. -/
def ofName (tree : Tree) (directory : Place) (searchPath : List String) (name : String) :
    Except Fault Launch :=
  if name.isEmpty then .error .missing
  else if name.contains '/' then ofPath tree directory interpreterLimit name
  else if Tree.nameLimit < name.utf8ByteSize then .error .nameTooLong
  else search tree directory name .missing searchPath

end Launch

end Toolmark.Host
