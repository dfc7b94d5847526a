import Toolmark.Host.Description
import Toolmark.Json.Reader
import Toolmark.Program

/-!
# The command line program

The program reads the description of a host from standard input and runs on that host with the
arguments of its command line. The report goes to standard output, the log to standard error.
-/

/-- Reasons that say no more than what refused an input. -/
def shortReasons : Toolmark.Reasons where
  regex _ := "<regex error>"
  config _ := "<yaml error>"

/-- Runs on the host that standard input describes. -/
def main (arguments : List String) : IO UInt32 := do
  let description ← (← IO.getStdin).readToEnd
  match (Toolmark.Json.read? description).bind Toolmark.Host.ofJson? with
  | none => do
      (← IO.getStderr).putStrLn "standard input does not describe a host"
      return 1
  | some host => do
      let result := Toolmark.Program.start shortReasons host arguments (← IO.monoMsNow)
      let errors ← IO.getStderr
      for line in result.log do
        errors.putStrLn line
      let output ← IO.getStdout
      output.putStr result.output
      output.flush
      return result.code.toUInt32
