import Toolmark.Host.Launch
import Toolmark.Host.Status
import Toolmark.Shell.Field
import Toolmark.Shell.Script
import Toolmark.Shell.Utility

/-!
# Sessions of the shell

What a shell knows while it runs a script. Output goes to numbered channels, so that it can be
caught; time is counted in milliseconds and passes only while something waits.
-/

namespace Toolmark.Shell

/-- What a shell knows while it runs a script. -/
structure Session where
  /-- The files of the host. -/
  tree : Host.Tree
  /-- The directory in which relative paths begin. -/
  directory : Host.Place
  /-- The values of variables. -/
  bindings : List (Octets × Octets)
  /-- The variables that programs get. -/
  exported : List Octets
  /-- The functions. -/
  functions : List (Octets × Command)
  /-- The name of the script. -/
  name : Octets
  /-- The arguments of the script. -/
  arguments : List Octets
  /-- The code of the last command. -/
  code : Nat
  /-- The texts written to channels, last first. -/
  written : List (Nat × List Octets)
  /-- The number of the next channel. -/
  nextChannel : Nat
  /-- The channels of open descriptors; one without a channel loses what is written to it. -/
  descriptors : List (Nat × Option Nat)
  /-- The channels of files that have been opened for writing. -/
  files : List (Host.Place × Nat)
  /-- The input that has not been read. -/
  input : Octets
  /-- The time that has passed. -/
  clock : Nat
  /-- The times until which commands in the background hold channels. -/
  holds : List (Nat × Nat)
  /-- The time at which the last command in the background ends. -/
  jobsEnd : Nat
  /-- A failure ends the script. -/
  stopsOnError : Bool
  /-- The use of a variable without value ends the script. -/
  stopsOnMissing : Bool
  /-- What is done about signals, and at the end. -/
  traps : List (Octets × Octets)
  /-- The number of loops around the command. -/
  loops : Nat

/-- How the commands of a script go on. -/
inductive Flow where
  /-- With the next command. -/
  | next
  /-- Behind some loops. -/
  | leave (levels : Nat)
  /-- At the beginning of a loop. -/
  | again (levels : Nat)
  /-- Behind the call of a function. -/
  | back
  /-- Not at all, as the script ends. -/
  | done
  /-- Not at all, as a signal ends the shell. -/
  | killed (signal : Nat)
  /-- For ever. -/
  | endless
deriving DecidableEq, Repr

namespace Session

/-- The time at which something ends that never ends. -/
def forever : Nat := 0x100000000000000000000

/-- The number by which scripts know their process. -/
def processNumber : Octets := ['4', '2', '4', '2']

/-- The session with a code. -/
def withCode (session : Session) (code : Nat) : Session := { session with code := code }

/-- The value of a variable. -/
def value? (session : Session) (name : Octets) : Option Octets :=
  (session.bindings.find? fun entry => entry.1 == name).map (·.2)

/-- The session with a value for a variable. -/
def assign (session : Session) (name value : Octets) : Session :=
  { session with
    bindings := (name, value) :: session.bindings.filter fun entry => entry.1 != name }

/-- The characters at which values are split. -/
def separators (session : Session) : Octets :=
  (session.value? ['I', 'F', 'S']).getD Part.usualSeparators

/-- The value of a parameter. -/
def parameter (session : Session) (name : Octets) : Option Octets :=
  match name with
  | ['#'] => some (Octets.ofNat session.arguments.length)
  | ['?'] => some (Octets.ofNat session.code)
  | ['$'] => some processNumber
  | ['!'] => some processNumber
  | ['-'] => some []
  | ['0'] => some session.name
  | ['@'] => if session.arguments.isEmpty then none else some (Format.joined session.arguments)
  | ['*'] => if session.arguments.isEmpty then none else some (Format.joined session.arguments)
  | c :: _ =>
      if c.isDigit then
        (Arithmetic.ofDigits? 10 name).bind fun index => session.arguments[index.toNat - 1]?
      else session.value? name
  | [] => none

/-- The directories in which programs are looked for. -/
def searchPath (session : Session) : List String :=
  (Octets.toText ((session.value? "PATH".toList).getD [])).splitOn ":"

/-- The text that has been written to a channel. -/
def text (session : Session) (channel : Nat) : Octets :=
  (((session.written.find? fun entry => entry.1 == channel).map (·.2)).getD []).reverse.flatten

/-- The session with a text written to a channel. -/
def writeTo (session : Session) (channel : Nat) (text : Octets) : Session :=
  let before := ((session.written.find? fun entry => entry.1 == channel).map (·.2)).getD []
  { session with
    written := (channel, text :: before) :: session.written.filter fun entry => entry.1 != channel }

/-- The session with a text written to a descriptor, if it is open. -/
def write? (session : Session) (descriptor : Nat) (text : Octets) : Option Session :=
  if text.isEmpty then some session
  else (session.descriptors.find? fun entry => entry.1 == descriptor).map fun entry =>
    match entry.2 with
    | some channel => session.writeTo channel text
    | none => session

/-- The session with the output of a command and its code; output that cannot be written makes it
fail. -/
def print (session : Session) (text : Octets) (code : Nat) : Session :=
  match session.write? 1 text with
  | some session => session.withCode code
  | none => session.withCode (max code 1)

/-- The session with a descriptor that has a channel or none. -/
def attach (session : Session) (descriptor : Nat) (channel : Option Nat) : Session :=
  { session with
    descriptors :=
      (descriptor, channel) :: session.descriptors.filter fun entry => entry.1 != descriptor }

/-- The session without a descriptor. -/
def close (session : Session) (descriptor : Nat) : Session :=
  { session with
    descriptors := session.descriptors.filter fun entry => entry.1 != descriptor }

/-- The session with a new channel, and its number. -/
def newChannel (session : Session) : Session × Nat :=
  ({ session with nextChannel := session.nextChannel + 1 }, session.nextChannel)

/-- The session after another one that began with it and kept its changes for itself. -/
def after (session inner : Session) : Session :=
  { session with
    written := inner.written
    nextChannel := inner.nextChannel
    files := inner.files
    input := inner.input
    clock := inner.clock
    holds := inner.holds
    code := inner.code }

/-- The place at which a file can be written. -/
def writable? (session : Session) (path : Octets) : Option Host.Place :=
  let path := Octets.toText path
  match session.tree.resolve session.directory path with
  | .ok place => if session.tree.at? place == some .directory then none else some place
  | .error .missing =>
      let names := path.splitOn "/"
      let above := "/".intercalate names.dropLast
      let above := if names.length ≤ 1 then "." else above ++ "/"
      match session.tree.resolve session.directory above, names.getLast? with
      | .ok place, some name => if name.isEmpty then none else some (place ++ [name])
      | _, _ => none
  | .error _ => none

/-- The octets of a file. -/
def read? (session : Session) (path : Octets) : Option Octets :=
  let opened := (session.writable? path).bind fun place =>
    (session.files.find? fun entry => entry.1 == place).map (·.2)
  match opened with
  | some channel => some (session.text channel)
  | none =>
      match session.tree.read session.directory (Octets.toText path) with
      | .ok bytes => some (Octets.ofBytes bytes)
      | .error _ => none

/-- The entry at a path. -/
def entry? (session : Session) (path : Octets) : Option Host.Entry :=
  match session.tree.find session.directory (Octets.toText path) with
  | .ok entry => some entry
  | .error _ =>
      (session.writable? path).bind fun place =>
        (session.files.find? fun entry => entry.1 == place).map fun entry =>
          .file (Octets.toBytes (session.text entry.2)) false

/-- The names in a directory, in order. -/
def names (session : Session) (path : Octets) : List Octets :=
  match session.tree.resolve session.directory (Octets.toText path) with
  | .ok place =>
      let below := (session.tree.entries.map (·.1) ++ session.files.map (·.1)).filterMap
        fun other =>
          if other.length == place.length + 1 && other.dropLast == place then other.getLast?
          else none
      let shown := (below.map Octets.ofText).filter fun name => name.head? != some '.'
      (shown.mergeSort fun left right => !(right < left)).eraseDups
  | .error _ => []

/-- What a program can learn. -/
def surroundings (session : Session) : Surroundings where
  lookup := session.entry?
  read := session.read?
  names := session.names

/-- The session in which a descriptor is opened for writing, if that is possible. What a file holds
is kept if the text is to be appended. -/
def openFile? (session : Session) (descriptor : Nat) (path : Octets) (isAppended : Bool) :
    Option Session :=
  match Octets.toText path with
  | "/dev/null" => some (session.attach descriptor none)
  | "/dev/stderr" => some (session.attach descriptor none)
  | "/dev/stdout" =>
      (session.descriptors.find? fun entry => entry.1 == 1).map fun entry =>
        session.attach descriptor entry.2
  | _ => (session.writable? path).map fun place =>
      let before := if isAppended then (session.read? path).getD [] else []
      let (session, channel) := session.newChannel
      let session := { session with files := (place, channel) :: session.files }
      (session.writeTo channel before).attach descriptor (some channel)

/-- The session in which a command in the background holds the channels of its descriptors until a
time. -/
def hold (session : Session) (descriptors : List (Nat × Option Nat)) (time : Nat) : Session :=
  { session with
    holds :=
      (descriptors.filterMap fun entry => entry.2.map fun channel => (channel, time)) ++
        session.holds
    jobsEnd := max session.jobsEnd time }

/-- The time until which a channel is held. -/
def heldUntil (session : Session) (channel : Nat) : Nat :=
  session.holds.foldl (fun time entry => if entry.1 == channel then max time entry.2 else time)
    session.clock

/-- The session after a program. -/
def afterEffect (session : Session) (effect : Effect) : Session :=
  { session with input := effect.input, clock := session.clock + effect.duration }.print
    effect.output effect.code

end Session

end Toolmark.Shell
