/-!
# External tools

The command lines that detectors need, and the ways in which running one can fail.
-/

namespace Toolmark

/-- A command line without the binary, which is its last argument when it is run. -/
structure Invocation where
  /-- The program. -/
  program : String
  /-- The arguments before the binary. -/
  args : List String
deriving DecidableEq, Repr, Inhabited

namespace Invocation

/-- The command line as text, its words separated by blanks. -/
def command (invocation : Invocation) : String :=
  invocation.args.foldl (fun text arg => text ++ " " ++ arg) invocation.program

end Invocation

/-- Why a tool gave no output. -/
inductive Failure where
  /-- The program could not be started. -/
  | spawn (program source : String)
  /-- The program reported failure. -/
  | failed (program status : String)
  /-- The program was still running at the deadline. -/
  | timeout (program : String)
deriving DecidableEq, Repr

namespace Failure

/-- The text of a failure. -/
def message : Failure → String
  | spawn program source => "failed to start " ++ program ++ ": " ++ source
  | failed program status => program ++ " exited with " ++ status
  | timeout program => program ++ " did not finish before the deadline"

/-- The cause of a failure, as far as the system names one. -/
def source? : Failure → Option String
  | spawn _ source => some source
  | _ => none

end Failure

/-- The output of a tool, or why there is none. -/
abbrev ToolResult := Except Failure String

end Toolmark
