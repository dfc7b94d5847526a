/-!
# Arguments

The grammar of the command line. An option takes the argument behind it or what is attached to its
name; a value that stands as an argument of its own is checked when the next option or path is
reached, so an unknown argument directly behind it is reported first. Behind `--` every argument is a
path.
-/

namespace Toolmark

/-- What the command line asks for. -/
structure Options where
  /-- The binary to inspect. -/
  binaryPath : Option String
  /-- The form of the report. -/
  format : String
  /-- The seconds that all tools share. -/
  timeoutSecs : Option Nat
  /-- The file with a configuration. -/
  fingerprints : Option String
  /-- The tools run one after the other. -/
  sequential : Bool
deriving DecidableEq, Repr

/-- Why arguments give no options. -/
inductive UsageError where
  /-- The help is asked for. -/
  | help
  /-- The version is asked for. -/
  | version
  /-- There is no such option, or there is one path too many. -/
  | unknownArgument
  /-- A value is missing or empty. -/
  | invalidValue
  /-- A value has the wrong form. -/
  | valueValidation
  /-- An option occurs twice. -/
  | argumentConflict
  /-- A value is attached to an option that takes none. -/
  | tooManyValues
deriving DecidableEq, Repr

namespace UsageError

/-- The text of the help. -/
def helpText : String :=
  "Heuristic detector for binaries compiled from Rust\n\n" ++
    "Usage: rust-detector [OPTIONS] [BINARY_PATH]\n\n" ++
    "Arguments:\n" ++
    "  [BINARY_PATH]  Path to the binary to inspect\n\n" ++
    "Options:\n" ++
    "  -f, --format <FORMAT>              Output format: pretty or json [default: pretty]\n" ++
    "  -t, --timeout <TIMEOUT>            Time budget in seconds shared by all external tools\n" ++
    "      --fingerprints <FINGERPRINTS>  YAML file overriding the built-in fingerprints\n" ++
    "      --sequential                   Run the external tools one at a time\n" ++
    "  -h, --help                         Print help\n" ++
    "  -V, --version                      Print version\n"

/-- The text of the version. -/
def versionText : String := "rust-detector 0.1.0\n"

/-- The text that answers a request for help or for the version. -/
def answer? : UsageError → Option String
  | help => some helpText
  | version => some versionText
  | _ => none

/-- The exit code of the program. -/
def exitCode (error : UsageError) : Nat := if error.answer?.isSome then 0 else 2

end UsageError

namespace Options

/-- What an argument can set. -/
inductive Slot where
  /-- The path of the binary. -/
  | path
  /-- The form of the report. -/
  | format
  /-- The time budget. -/
  | timeout
  /-- The file with a configuration. -/
  | fingerprints
deriving DecidableEq, Repr

/-- An option of the command line. -/
inductive Switch where
  /-- An option with a value. -/
  | valued (slot : Slot)
  /-- The option to run tools one after the other. -/
  | sequential
  /-- The request for help. -/
  | help
  /-- The request for the version. -/
  | version
deriving DecidableEq, Repr

/-- The option with a long name. -/
def Switch.ofName? (name : List Char) : Option Switch :=
  match String.ofList name with
  | "format" => some (valued .format)
  | "timeout" => some (valued .timeout)
  | "fingerprints" => some (valued .fingerprints)
  | "sequential" => some sequential
  | "help" => some help
  | "version" => some version
  | _ => none

/-- The option with a letter. -/
def Switch.ofLetter? (letter : Char) : Option Switch :=
  match letter with
  | 'f' => some (valued .format)
  | 't' => some (valued .timeout)
  | 'h' => some help
  | 'V' => some version
  | _ => none

/-- The arguments between two of which the reader stands. -/
structure Partial where
  /-- The path, if one has been set. -/
  path : Option String
  /-- The form of the report, if it has been set. -/
  format : Option String
  /-- The time budget, if it has been set. -/
  timeout : Option Nat
  /-- The file with a configuration, if it has been set. -/
  fingerprints : Option String
  /-- Tools are to run one after the other. -/
  sequential : Bool
  /-- A path has been given. -/
  hasPath : Bool
  /-- What the next argument or the last one sets: the slot, and the value once it is there. -/
  pending : Option (Slot × Option String)

/-- The reader before the first argument. -/
def Partial.start : Partial where
  path := none
  format := none
  timeout := none
  fingerprints := none
  sequential := false
  hasPath := false
  pending := none

/-- The natural number of 64 bits in decimal digits, possibly behind a plus sign. -/
def seconds? (text : String) : Option Nat :=
  let digits := match text.toList with
    | '+' :: rest => rest
    | chars => chars
  if digits.isEmpty || !digits.all Char.isDigit then none
  else
    let value := digits.foldl (fun value c => 10 * value + (c.toNat - '0'.toNat)) 0
    if value ≤ 0xffffffffffffffff then some value else none

/-- The reader with a value for a slot. -/
def Partial.set (state : Partial) (slot : Slot) (value : String) : Except UsageError Partial :=
  match slot with
  | .path => if value.isEmpty then .error .invalidValue else .ok { state with path := some value }
  | .format =>
      if state.format.isSome then .error .argumentConflict
      else .ok { state with format := some value }
  | .timeout =>
      if state.timeout.isSome then .error .argumentConflict
      else match seconds? value with
        | some seconds => .ok { state with timeout := some seconds }
        | none => .error .valueValidation
  | .fingerprints =>
      if state.fingerprints.isSome then .error .argumentConflict
      else if value.isEmpty then .error .invalidValue
      else .ok { state with fingerprints := some value }

/-- The reader without a pending value. -/
def Partial.settle (state : Partial) : Except UsageError Partial :=
  match state.pending with
  | none => .ok state
  | some (_, none) => .error .invalidValue
  | some (slot, some value) => { state with pending := none }.set slot value

/-- The reader behind an option, with the value attached to it, if there is one. -/
def Partial.switch (state : Partial) (switch : Switch) (attached : Option String) :
    Except UsageError Partial :=
  match switch, attached with
  | .valued slot, some value => do (← state.settle).set slot value
  | .valued slot, none => do
      let state ← state.settle
      .ok { state with pending := some (slot, none) }
  | _, some _ => .error .tooManyValues
  | .sequential, none => do
      let state ← state.settle
      if state.sequential then .error .argumentConflict else .ok { state with sequential := true }
  | .help, none => do
      let _ ← state.settle
      .error .help
  | .version, none => do
      let _ ← state.settle
      .error .version

/-- The reader behind an option given by a letter; what follows the letter is its value. -/
def Partial.letters (state : Partial) (letters : List Char) : Except UsageError Partial :=
  match letters with
  | [] => .ok state
  | letter :: rest =>
      match Switch.ofLetter? letter with
      | none => .error .unknownArgument
      | some (.valued slot) =>
          let attached := match rest with
            | [] => none
            | '=' :: value => some (String.ofList value)
            | value => some (String.ofList value)
          state.switch (.valued slot) attached
      | some switch => do
          let state ← state.switch switch none
          state.letters rest

/-- The reader behind an option given by its name. -/
def Partial.long (state : Partial) (chars : List Char) : Except UsageError Partial :=
  let attached := match chars.dropWhile (· != '=') with
    | _ :: value => some (String.ofList value)
    | [] => none
  match Switch.ofName? (chars.takeWhile (· != '=')) with
  | none => .error .unknownArgument
  | some switch => state.switch switch attached

/-- The reader behind a path. -/
def Partial.positional (state : Partial) (argument : String) : Except UsageError Partial :=
  if state.hasPath then .error .unknownArgument
  else do
    let state ← state.settle
    .ok { state with hasPath := true, pending := some (.path, some argument) }

/-- The reader behind an argument that is no option: the value of the option before it, or a path. -/
def Partial.word (state : Partial) (argument : String) : Except UsageError Partial :=
  match state.pending with
  | some (slot, none) => .ok { state with pending := some (slot, some argument) }
  | _ => state.positional argument

/-- The reader behind all arguments. -/
def Partial.read (state : Partial) : List String → Except UsageError Partial
  | [] => state.settle
  | argument :: rest =>
      match argument.toList with
      | ['-', '-'] => do (← rest.foldlM Partial.positional state).settle
      | '-' :: '-' :: chars => do (← state.long chars).read rest
      | ['-'] => do (← state.word argument).read rest
      | '-' :: chars => do (← state.letters chars).read rest
      | _ => do (← state.word argument).read rest

/-- The options that arguments give. -/
def ofArguments (arguments : List String) : Except UsageError Options := do
  let state ← Partial.start.read arguments
  return {
    binaryPath := state.path
    format := state.format.getD "pretty"
    timeoutSecs := state.timeout
    fingerprints := state.fingerprints
    sequential := state.sequential }

end Options

end Toolmark
