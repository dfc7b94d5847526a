/-!
# Faults of the host

Why the host refuses to find, to read or to start something, in the words that it uses.
-/

namespace Toolmark.Host

/-- Why the host refuses a request. -/
inductive Fault where
  /-- There is nothing at the path. -/
  | missing
  /-- The arguments are too long for a process. -/
  | argumentsTooLong
  /-- The file is no program. -/
  | noProgram
  /-- The file may not be run. -/
  | denied
  /-- The path leads through a file. -/
  | notDirectory
  /-- A directory cannot be read as a file. -/
  | isDirectory
  /-- A name or a path is too long. -/
  | nameTooLong
  /-- Programs name each other as interpreters. -/
  | tooManyLinks
  /-- A path to read has a null character. -/
  | nullInPath
  /-- A command line has a null character. -/
  | nullInArgument
deriving DecidableEq, Repr

namespace Fault

/-- The number of a fault that has one, with its words. -/
def system (words : String) (number : Nat) : String :=
  words ++ " (os error " ++ toString number ++ ")"

/-- The text of a fault. -/
def message : Fault → String
  | missing => system "No such file or directory" 2
  | argumentsTooLong => system "Argument list too long" 7
  | noProgram => system "Exec format error" 8
  | denied => system "Permission denied" 13
  | notDirectory => system "Not a directory" 20
  | isDirectory => system "Is a directory" 21
  | nameTooLong => system "File name too long" 36
  | tooManyLinks => system "Too many levels of symbolic links" 40
  | nullInPath => "file name contained an unexpected NUL byte"
  | nullInArgument => "nul byte found in provided data"

end Fault

end Toolmark.Host
