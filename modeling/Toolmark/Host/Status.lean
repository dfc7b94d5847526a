/-!
# Statuses of processes

How a process ended, in the words of the host.
-/

namespace Toolmark.Host

/-- The names of signals by their numbers, from one. -/
def signalNames : List String :=
  ["HUP", "INT", "QUIT", "ILL", "TRAP", "ABRT", "BUS", "FPE", "KILL", "USR1", "SEGV", "USR2",
    "PIPE", "ALRM", "TERM", "STKFLT", "CHLD", "CONT", "STOP", "TSTP", "TTIN", "TTOU", "URG",
    "XCPU", "XFSZ", "VTALRM", "PROF", "WINCH", "IO", "PWR", "SYS"]

/-- How a process ended. -/
inductive Status where
  /-- With a code. -/
  | exited (code : Nat)
  /-- By a signal. -/
  | killed (signal : Nat)
deriving DecidableEq, Repr

namespace Status

/-- The process reported success. -/
def isSuccess : Status → Bool
  | exited code => code == 0
  | killed _ => false

/-- The text of a status. -/
def text : Status → String
  | exited code => "exit status: " ++ toString code
  | killed signal =>
      let name := if signal = 0 then none else signalNames[signal - 1]?
      "signal: " ++ toString signal ++
        match name with
        | some name => " (SIG" ++ name ++ ")"
        | none => ""

/-- The code by which a shell knows a status. -/
def code : Status → Nat
  | exited code => code
  | killed signal => 128 + signal

end Status

/-- What a signal does to a process that has not prepared for it. -/
inductive SignalEffect where
  /-- Nothing. -/
  | ignored
  /-- The process stops until it is told to go on. -/
  | stopped
  /-- The process ends. -/
  | killed
deriving DecidableEq, Repr

/-- The effect of a signal. -/
def SignalEffect.of (signal : Nat) : SignalEffect :=
  if [0, 17, 18, 23, 28].contains signal then ignored
  else if [19, 20, 21, 22].contains signal then stopped
  else killed

end Toolmark.Host
