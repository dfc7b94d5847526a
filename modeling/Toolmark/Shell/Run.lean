import Toolmark.Shell.Reader
import Toolmark.Shell.Session

/-!
# Running scripts

What commands do to a session. Every function gets a bound for the depth of its work; a script that
reaches the bound counts as one that never ends.
-/

namespace Toolmark.Shell

namespace Session

/-- The flow behind a command: a failure that nothing asks about may end the script. -/
def check (session : Session) (isAsked : Bool) : Session × Flow :=
  if session.stopsOnError && !isAsked && session.code != 0 then (session, .done)
  else (session, .next)

/-- The session and the flow behind a fault that ends the script. -/
def fault (session : Session) : Session × Flow := (session.withCode 2, .done)

/-- The number in a text of digits. -/
def number? (text : Octets) : Option Nat := (Arithmetic.ofDigits? 10 text).map Int.toNat

/-- The number of the signal that a text names. -/
def signal? (text : Octets) : Option Nat :=
  match number? text with
  | some number => some number
  | none =>
      let name := Octets.toText (text.map Char.toUpper)
      let name := if name.startsWith "SIG" then String.ofList (name.toList.drop 3) else name
      if name == "EXIT" then some 0
      else (Host.signalNames.idxOf? name).map (· + 1)

/-- The signal and the processes that arguments of `kill` name. -/
def signalArguments? (arguments : List Octets) : Option (Nat × List Octets) :=
  match arguments with
  | ['-', 's'] :: name :: processes => (signal? name).map fun signal => (signal, processes)
  | ['-', '-'] :: processes => some (15, processes)
  | ('-' :: name) :: processes => (signal? name).map fun signal => (signal, processes)
  | processes => some (15, processes)

/-- The first field of a line and what is left behind the separators that follow it. -/
def firstField (separators line : Octets) : Octets × Octets :=
  let isBlank (c : Char) : Bool := separators.contains c && Part.isBlank c
  let line := line.dropWhile isBlank
  let field := line.takeWhile fun c => !separators.contains c
  let rest := (line.drop field.length).dropWhile isBlank
  match rest with
  | c :: after => (field, if separators.contains c then after.dropWhile isBlank else rest)
  | [] => (field, [])

/-- The session with the fields of a line as values of variables; the last variable gets the rest. -/
def assignFields (session : Session) (line : Octets) : List Octets → Session
  | [] => session
  | [name] =>
      let isBlank (c : Char) : Bool := session.separators.contains c && Part.isBlank c
      let value := line.dropWhile isBlank
      session.assign name (value.reverse.dropWhile isBlank).reverse
  | name :: rest =>
      let (field, line) := firstField session.separators line
      (session.assign name field).assignFields line rest

/-- A line of input without its line feed, what follows it, and whether it has a line feed. With
escapes, a backslash makes the next character plain or joins two lines. -/
def inputLine (hasEscapes : Bool) : Octets → Octets × Octets × Bool
  | [] => ([], [], false)
  | '\n' :: rest => ([], rest, true)
  | '\\' :: c :: rest =>
      if hasEscapes then
        let (line, rest, isComplete) := inputLine hasEscapes rest
        (if c == '\n' then line else c :: line, rest, isComplete)
      else
        let (line, rest, isComplete) := inputLine hasEscapes (c :: rest)
        ('\\' :: line, rest, isComplete)
  | c :: rest =>
      let (line, rest, isComplete) := inputLine hasEscapes rest
      (c :: line, rest, isComplete)

/-- The session behind the command `read`. -/
def readLine (session : Session) (arguments : List Octets) : Session :=
  let (hasEscapes, names) := match arguments with
    | ['-', 'r'] :: names => (false, names)
    | names => (true, names)
  let (line, rest, isComplete) := inputLine hasEscapes session.input
  ({ session with input := rest }.assignFields line names).withCode (if isComplete then 0 else 1)

/-- The session with a value for a variable, if the text has one, and the name of the variable. -/
def declare (session : Session) (text : Octets) : Session × Octets :=
  let name := text.takeWhile (· != '=')
  match text.drop name.length with
  | _ :: value => (session.assign name value, name)
  | [] => (session, name)

/-- The session behind the command `export`. -/
def exportAll (session : Session) (texts : List Octets) : Session :=
  texts.foldl
    (fun session text =>
      let (session, name) := session.declare text
      { session with exported := name :: session.exported })
    (session.withCode 0)

/-- The session with the options that letters switch on or off. -/
def setOptions (session : Session) (isOn : Bool) (letters : Octets) : Session :=
  let session := if letters.contains 'e' then { session with stopsOnError := isOn } else session
  if letters.contains 'u' then { session with stopsOnMissing := isOn } else session

/-- The session behind the command `set`. -/
def setArguments (session : Session) : List Octets → Session
  | [] => session
  | ['-', '-'] :: arguments => { session with arguments := arguments }
  | ('-' :: c :: letters) :: rest => (session.setOptions true (c :: letters)).setArguments rest
  | ('+' :: c :: letters) :: rest => (session.setOptions false (c :: letters)).setArguments rest
  | arguments => { session with arguments := arguments }

/-- The session behind the command `trap`. -/
def setTrap (session : Session) (arguments : List Octets) : Session :=
  match arguments with
  | action :: names =>
      let numbers := (names.filterMap signal?).map Octets.ofNat
      let others := session.traps.filter fun entry => !numbers.contains entry.1
      let mine := if action == ['-'] then [] else numbers.map fun number => (number, action)
      { session with traps := mine ++ others }.withCode 0
  | [] => session.withCode 0

/-- What is done about a signal, if something has been said about it. -/
def trap? (session : Session) (signal : Nat) : Option Octets :=
  (session.traps.find? fun entry => entry.1 == Octets.ofNat signal).map (·.2)

/-- The session in another directory. -/
def enter (session : Session) (path : Octets) : Session :=
  match session.tree.resolve session.directory (Octets.toText path) with
  | .ok place =>
      if session.tree.at? place == some .directory then
        { session with directory := place }.withCode 0
      else session.withCode 2
  | .error _ => session.withCode 2

/-- The session of a program that is started with some assignments. -/
def started (session : Session) (assignments : List (Octets × Octets)) : Session :=
  let session := assignments.foldl (fun session entry => session.assign entry.1 entry.2) session
  let names := assignments.map (·.1) ++ session.exported
  { session with
    bindings := session.bindings.filter fun entry => names.contains entry.1
    exported := names
    functions := []
    code := 0
    stopsOnError := false
    stopsOnMissing := false
    traps := session.traps.filter fun entry => entry.2.isEmpty
    jobsEnd := 0
    loops := 0 }

end Session

/-- The commands of the shell that act before functions are looked for. -/
def specialNames : List String :=
  [".", ":", "break", "continue", "eval", "exec", "exit", "export", "readonly", "return", "set",
    "shift", "trap", "unset"]

/-- The other commands of the shell. -/
def builtinNames : List String :=
  ["[", "alias", "cd", "command", "echo", "false", "hash", "kill", "local", "printf", "pwd", "read",
    "test", "true", "type", "ulimit", "umask", "unalias", "wait"]

/-- The flow behind a command that leaves a number of loops; outside of loops it does nothing. -/
def loopFlow (make : Nat → Flow) (arguments : List Octets) (session : Session) : Flow :=
  if session.loops = 0 then .next
  else make (min session.loops ((arguments.head?.bind Session.number?).getD 1))

/-- The commands of the shell that neither run other commands nor stop the shell. -/
def plainBuiltin (name : String) (arguments : List Octets) (session : Session) : Session :=
  let utility (name : String) : Session :=
    session.afterEffect (Utility.run name session.surroundings session.input arguments)
  match name with
  | ":" => session.withCode 0
  | "true" => session.withCode 0
  | "false" => session.withCode 1
  | "echo" => session.print (Format.echo arguments) 0
  | "printf" =>
      let (text, isRight) := Format.printf arguments
      session.print text (if arguments.isEmpty then 2 else if isRight then 0 else 1)
  | "test" => utility "test"
  | "[" => utility "["
  | "read" => session.readLine arguments
  | "export" => session.exportAll arguments
  | "readonly" => session.exportAll arguments
  | "local" =>
      (arguments.foldl (fun session text => (session.declare text).1) session).withCode 0
  | "unset" =>
      { session with
        bindings := session.bindings.filter fun entry => !arguments.contains entry.1
        functions := session.functions.filter fun entry => !arguments.contains entry.1 }.withCode 0
  | "set" => (session.setArguments arguments).withCode 0
  | "trap" => session.setTrap arguments
  | "cd" => session.enter (arguments.headD ['/'])
  | "pwd" =>
      session.print (Octets.ofText ("/" ++ "/".intercalate session.directory) ++ ['\n']) 0
  | "wait" => { session with clock := max session.clock session.jobsEnd }.withCode 0
  | _ => session.withCode 0

mutual

/-- The parts of a word. -/
def expand (bound : Nat) (word : Word) (session : Session) : Session × Except Flow (List Part) :=
  match bound with
  | 0 => (session, .error .endless)
  | bound + 1 =>
      match word with
      | [] => (session, .ok [])
      | piece :: rest =>
          match expandPiece bound piece session with
          | (session, .error flow) => (session, .error flow)
          | (session, .ok parts) =>
              match expand bound rest session with
              | (session, .error flow) => (session, .error flow)
              | (session, .ok more) => (session, .ok (parts ++ more))

/-- The parts of a piece of a word. -/
def expandPiece (bound : Nat) (piece : Piece) (session : Session) :
    Session × Except Flow (List Part) :=
  match bound with
  | 0 => (session, .error .endless)
  | bound + 1 =>
      match piece with
      | .bare text => (session, .ok [.fixed text false])
      | .quoted text => (session, .ok [.fixed text true])
      | .parameter ['@'] .keep true => (session, .ok (Part.ofFields session.arguments))
      | .parameter name change isQuoted => expandParameter bound name change isQuoted session
      | .output body isQuoted =>
          let (inner, channel) := session.newChannel
          match run bound false body (inner.attach 1 (some channel)) with
          | (inner, .killed signal) => (session.after inner, .error (.killed signal))
          | (inner, .endless) => (session.after inner, .error .endless)
          | (inner, _) =>
              let text := (inner.text channel).filter (· != '\x00')
              let text := (text.reverse.dropWhile (· == '\n')).reverse
              ({ session.after inner with clock := inner.heldUntil channel },
                .ok [Part.ofValue isQuoted text])
      | .number pieces isQuoted =>
          match expand bound pieces session with
          | (session, .error flow) => (session, .error flow)
          | (session, .ok parts) =>
              let lookup (name : Octets) : Octets := (session.value? name).getD []
              match Arithmetic.value? lookup (Part.text parts) with
              | some value => (session, .ok [Part.ofValue isQuoted (toString value).toList])
              | none => (session.withCode 2, .error .done)

/-- The parts of the value of a parameter after a change. -/
def expandParameter (bound : Nat) (name : Octets) (change : Change) (isQuoted : Bool)
    (session : Session) : Session × Except Flow (List Part) :=
  match bound with
  | 0 => (session, .error .endless)
  | bound + 1 =>
      let value? := session.parameter name
      let value := value?.getD []
      let isMissing (alsoEmpty : Bool) : Bool := value?.isNone || (alsoEmpty && value.isEmpty)
      let plain : Session × Except Flow (List Part) :=
        (session, .ok [Part.ofValue isQuoted value])
      let ofWord (word : Word) : Session × Except Flow (List Part) :=
        match expand bound word session with
        | (session, .ok parts) =>
            (session, .ok (if isQuoted then .fixed [] true :: parts.map Part.quote else parts))
        | result => result
      let cut (word : Word) (cut : Pattern → Octets) : Session × Except Flow (List Part) :=
        match expand bound word session with
        | (session, .ok parts) => (session, .ok [Part.ofValue isQuoted (cut (Part.pattern parts))])
        | result => result
      match change with
      | .keep =>
          if value?.isNone && session.stopsOnMissing && !(['@', '*'].contains (name.headD '@')) then
            (session.withCode 2, .error .done)
          else plain
      | .length => (session, .ok [Part.ofValue isQuoted (Octets.ofNat value.length)])
      | .orElse alsoEmpty word => if isMissing alsoEmpty then ofWord word else plain
      | .orAssign alsoEmpty word =>
          if isMissing alsoEmpty then
            match ofWord word with
            | (session, .ok parts) => (session.assign name (Part.text parts), .ok parts)
            | result => result
          else plain
      | .orFail alsoEmpty =>
          if isMissing alsoEmpty then (session.withCode 2, .error .done) else plain
      | .instead alsoEmpty word =>
          if isMissing alsoEmpty then (session, .ok [Part.ofValue isQuoted []]) else ofWord word
      | .withoutStart longest word => cut word fun pattern => pattern.cutStart longest value
      | .withoutEnd longest word => cut word fun pattern => pattern.cutEnd longest value

/-- The fields of words. -/
def expandAll (bound : Nat) (words : List Word) (session : Session) :
    Session × Except Flow (List Octets) :=
  match bound with
  | 0 => (session, .error .endless)
  | bound + 1 =>
      match words with
      | [] => (session, .ok [])
      | word :: rest =>
          match expand bound word session with
          | (session, .error flow) => (session, .error flow)
          | (session, .ok parts) =>
              match expandAll bound rest session with
              | (session, .error flow) => (session, .error flow)
              | (session, .ok more) => (session, .ok (Part.fields session.separators parts ++ more))

/-- The text of a word that is not split. -/
def expandText (bound : Nat) (word : Word) (session : Session) : Session × Except Flow Octets :=
  match bound with
  | 0 => (session, .error .endless)
  | bound + 1 =>
      match expand bound word session with
      | (session, .error flow) => (session, .error flow)
      | (session, .ok parts) => (session, .ok (Part.text parts))

/-- The session after assignments, with what has been assigned. -/
def assignAll (bound : Nat) (assignments : List (Octets × Word)) (session : Session) :
    Session × Except Flow (List (Octets × Octets)) :=
  match bound with
  | 0 => (session, .error .endless)
  | bound + 1 =>
      match assignments with
      | [] => (session, .ok [])
      | (name, word) :: rest =>
          match expandText bound word session with
          | (session, .error flow) => (session, .error flow)
          | (session, .ok value) =>
              match assignAll bound rest (session.assign name value) with
              | (session, .error flow) => (session, .error flow)
              | (session, .ok more) => (session, .ok ((name, value) :: more))

/-- The session after redirections, and whether all of them were possible. -/
def redirect (bound : Nat) (redirections : List Redirection) (session : Session) :
    Session × Except Flow Bool :=
  match bound with
  | 0 => (session, .error .endless)
  | bound + 1 =>
      match redirections with
      | [] => (session, .ok true)
      | .of descriptor target :: rest =>
          let word := match target with
            | .output path => path
            | .append path => path
            | .input path => path
            | .copy source => source
          match expandText bound word session with
          | (session, .error flow) => (session, .error flow)
          | (session, .ok text) =>
              let next? := match target with
                | .output _ => session.openFile? descriptor text false
                | .append _ => session.openFile? descriptor text true
                | .input _ => (session.read? text).map fun content =>
                    if descriptor == 0 then { session with input := content } else session
                | .copy _ =>
                    if text == ['-'] then
                      some (if descriptor == 0 then { session with input := [] }
                        else session.close descriptor)
                    else if text == ['0'] || descriptor == 0 then some session
                    else
                      let number := Session.number? text
                      (session.descriptors.find? fun entry => some entry.1 == number).map
                        fun entry => session.attach descriptor entry.2
              match next? with
              | some session => redirect bound rest session
              | none => (session, .ok false)

/-- A command with redirections that last as long as it does. -/
def within (bound : Nat) (redirections : List Redirection) (session : Session)
    (action : Session → Session × Flow) : Session × Flow :=
  match bound with
  | 0 => (session, .endless)
  | bound + 1 =>
      let changesInput := redirections.any fun redirection =>
        match redirection with
        | .of 0 _ => true
        | _ => false
      match redirect bound redirections session with
      | (inner, .error flow) => (session.after inner, flow)
      | (inner, .ok false) => ((session.after inner).withCode 2, .next)
      | (inner, .ok true) =>
          let (inner, flow) := action inner
          ({ inner with
              descriptors := session.descriptors
              input := if changesInput then session.input else inner.input }, flow)

/-- A command. A status that something asks about never ends the script. -/
def run (bound : Nat) (isAsked : Bool) (command : Command) (session : Session) : Session × Flow :=
  match bound with
  | 0 => (session, .endless)
  | bound + 1 =>
      match command with
      | .nothing => (session, .next)
      | .simple assignments words redirections =>
          match runSimple bound assignments words redirections session with
          | (session, .next) => session.check isAsked
          | result => result
      | .pipe first second =>
          let (left, channel) := session.newChannel
          let (left, leftFlow) := run bound true first (left.attach 1 (some channel))
          let text := left.text channel
          let right := { session.after left with input := text, clock := session.clock }
          let (right, flow) := run bound isAsked second right
          let session := { session.after right with
            input := left.input
            clock := max left.clock right.clock }
          match leftFlow, flow with
          | .killed signal, _ => (session, .killed signal)
          | _, .killed signal => (session, .killed signal)
          | _, .endless => (session, .endless)
          | .endless, _ => if text.isEmpty then (session, .endless) else session.check isAsked
          | _, _ => session.check isAsked
      | .negated command =>
          match run bound true command session with
          | (session, .next) => (session.withCode (if session.code == 0 then 1 else 0), .next)
          | result => result
      | .both first second =>
          match run bound true first session with
          | (session, .next) =>
              if session.code == 0 then run bound isAsked second session else (session, .next)
          | result => result
      | .either first second =>
          match run bound true first session with
          | (session, .next) =>
              if session.code == 0 then (session, .next) else run bound isAsked second session
          | result => result
      | .sequence first second =>
          match run bound isAsked first session with
          | (session, .next) => run bound isAsked second session
          | result => result
      | .background command =>
          let (inner, flow) := run bound false command { session with input := [] }
          let time := if flow = .endless then Session.forever else inner.clock
          let descriptors := match command with
            | .simple _ _ redirections => (redirect bound redirections session).1.descriptors
            | .redirected _ redirections => (redirect bound redirections session).1.descriptors
            | _ => session.descriptors
          let next := { session.after inner with
            input := session.input
            clock := session.clock }
          ((next.hold descriptors time).withCode 0, .next)
      | .apart command =>
          match run bound isAsked command session with
          | (inner, .killed signal) => (session.after inner, .killed signal)
          | (inner, .endless) => (session.after inner, .endless)
          | (inner, _) => (session.after inner).check isAsked
      | .redirected command redirections =>
          within bound redirections session fun session => run bound isAsked command session
      | .choice condition yes no =>
          match run bound true condition session with
          | (session, .next) =>
              if session.code == 0 then run bound isAsked yes session
              else run bound isAsked no (session.withCode 0)
          | result => result
      | .repetition whileSuccess condition body =>
          let (inner, flow) := repeatBody bound isAsked whileSuccess condition body 0
            { session with loops := session.loops + 1 }
          ({ inner with loops := session.loops }, flow)
      | .each name words body =>
          let enumerate (fields : List Octets) (session : Session) : Session × Flow :=
            let (inner, flow) := eachField bound isAsked name fields body
              { session with loops := session.loops + 1, code := 0 }
            ({ inner with loops := session.loops }, flow)
          match words with
          | none => enumerate session.arguments session
          | some words =>
              match expandAll bound words session with
              | (session, .error flow) => (session, flow)
              | (session, .ok fields) => enumerate fields session
      | .cases subject clauses =>
          match expandText bound subject session with
          | (session, .error flow) => (session, flow)
          | (session, .ok text) => firstClause bound isAsked text clauses (session.withCode 0)
      | .definition name body =>
          ({ session with
              functions := (name, body) :: session.functions.filter fun entry => entry.1 != name,
              code := 0 }, .next)

/-- A body as long as a condition allows it; the code is that of the last body. -/
def repeatBody (bound : Nat) (isAsked whileSuccess : Bool) (condition body : Command) (code : Nat)
    (session : Session) : Session × Flow :=
  match bound with
  | 0 => (session, .endless)
  | bound + 1 =>
      match run bound true condition session with
      | (session, .next) =>
          if (session.code == 0) == whileSuccess then
            match run bound isAsked body session with
            | (session, .next) =>
                repeatBody bound isAsked whileSuccess condition body session.code session
            | (session, .again levels) =>
                if levels ≤ 1 then
                  repeatBody bound isAsked whileSuccess condition body session.code session
                else (session, .again (levels - 1))
            | (session, .leave levels) =>
                (session, if levels ≤ 1 then .next else .leave (levels - 1))
            | result => result
          else (session.withCode code, .next)
      | (session, .leave levels) => (session, if levels ≤ 1 then .next else .leave (levels - 1))
      | result => result

/-- A body for each of some fields. -/
def eachField (bound : Nat) (isAsked : Bool) (name : Octets) (fields : List Octets)
    (body : Command) (session : Session) : Session × Flow :=
  match bound with
  | 0 => (session, .endless)
  | bound + 1 =>
      match fields with
      | [] => (session, .next)
      | field :: rest =>
          match run bound isAsked body (session.assign name field) with
          | (session, .next) => eachField bound isAsked name rest body session
          | (session, .again levels) =>
              if levels ≤ 1 then eachField bound isAsked name rest body session
              else (session, .again (levels - 1))
          | (session, .leave levels) =>
              (session, if levels ≤ 1 then .next else .leave (levels - 1))
          | result => result

/-- The first clause of which a pattern matches a text. -/
def firstClause (bound : Nat) (isAsked : Bool) (text : Octets)
    (clauses : List (List Word × Command)) (session : Session) : Session × Flow :=
  match bound with
  | 0 => (session, .endless)
  | bound + 1 =>
      match clauses with
      | [] => (session, .next)
      | (patterns, body) :: rest =>
          match anyPattern bound text patterns session with
          | (session, .error flow) => (session, flow)
          | (session, .ok true) => run bound isAsked body session
          | (session, .ok false) => firstClause bound isAsked text rest session

/-- One of some patterns matches a text. -/
def anyPattern (bound : Nat) (text : Octets) (patterns : List Word) (session : Session) :
    Session × Except Flow Bool :=
  match bound with
  | 0 => (session, .error .endless)
  | bound + 1 =>
      match patterns with
      | [] => (session, .ok false)
      | word :: rest =>
          match expand bound word session with
          | (session, .error flow) => (session, .error flow)
          | (session, .ok parts) =>
              if (Part.pattern parts).accepts text then (session, .ok true)
              else anyPattern bound text rest session

/-- A simple command. -/
def runSimple (bound : Nat) (assignments : List (Octets × Word)) (words : List Word)
    (redirections : List Redirection) (session : Session) : Session × Flow :=
  match bound with
  | 0 => (session, .endless)
  | bound + 1 =>
      match expandAll bound words session with
      | (session, .error flow) => (session, flow)
      | (session, .ok fields) =>
          match fields with
          | [] =>
              let session := if words.isEmpty then session.withCode 0 else session
              match assignAll bound assignments session with
              | (session, .error flow) => (session, flow)
              | (session, .ok _) =>
                  let code := session.code
                  within bound redirections session fun session => (session.withCode code, .next)
          | ['e', 'x', 'e', 'c'] :: arguments =>
              match redirect bound redirections session with
              | (session, .error flow) => (session, flow)
              | (session, .ok false) => session.fault
              | (session, .ok true) =>
                  if arguments.isEmpty then (session.withCode 0, .next)
                  else
                    match assignAll bound assignments session with
                    | (session, .error flow) => (session, flow)
                    | (session, .ok assigned) =>
                        match runNamed bound assigned arguments session with
                        | (session, some (.killed signal)) => (session, .killed signal)
                        | (session, some (.exited code)) => (session.withCode code, .done)
                        | (session, none) => (session, .endless)
          | name :: arguments =>
              let name' := Octets.toText name
              let isSpecial := specialNames.contains name'
              match assignAll bound assignments session with
              | (inner, .error flow) => (inner, flow)
              | (inner, .ok assigned) =>
                  let (inner, flow) := within bound redirections inner fun session =>
                    call bound assigned name arguments session
                  let bindings := if isSpecial || assigned.isEmpty then inner.bindings
                    else inner.bindings.filter (fun entry => !(assigned.map (·.1)).contains entry.1)
                      ++ session.bindings.filter fun entry =>
                        (assigned.map (·.1)).contains entry.1
                  ({ inner with bindings := bindings }, flow)

/-- The function, the command of the shell or the program with a name. -/
def call (bound : Nat) (assigned : List (Octets × Octets)) (name : Octets)
    (arguments : List Octets) (session : Session) : Session × Flow :=
  match bound with
  | 0 => (session, .endless)
  | bound + 1 =>
      let text := Octets.toText name
      let function? := if specialNames.contains text then none
        else session.functions.find? fun entry => entry.1 == name
      match function? with
      | some (_, body) =>
          match run bound false body { session with arguments := arguments } with
          | (inner, .back) => ({ inner with arguments := session.arguments }, .next)
          | (inner, flow) => ({ inner with arguments := session.arguments }, flow)
      | none =>
          if specialNames.contains text || builtinNames.contains text then
            builtin bound text arguments session
          else
            match runNamed bound assigned (name :: arguments) session with
            | (session, some status) => (session.withCode status.code, .next)
            | (session, none) => (session, .endless)

/-- A command of the shell. -/
def builtin (bound : Nat) (name : String) (arguments : List Octets) (session : Session) :
    Session × Flow :=
  match bound with
  | 0 => (session, .endless)
  | bound + 1 =>
      match name with
      | "exit" =>
          match arguments with
          | [] => (session, .done)
          | argument :: _ =>
              match Session.number? argument with
              | some code => (session.withCode (code % 256), .done)
              | none => session.fault
      | "return" =>
          let code := (arguments.head?.bind Session.number?).getD session.code
          (session.withCode (code % 256), .back)
      | "break" => (session.withCode 0, loopFlow .leave arguments session)
      | "continue" => (session.withCode 0, loopFlow .again arguments session)
      | "shift" =>
          let count := (arguments.head?.bind Session.number?).getD 1
          if session.arguments.length < count then session.fault
          else ({ session with arguments := session.arguments.drop count, code := 0 }, .next)
      | "eval" => runText bound (Format.joined arguments) (session.withCode 0)
      | "." =>
          match session.read? (arguments.headD []) with
          | none => session.fault
          | some script =>
              match runText bound script (session.withCode 0) with
              | (session, .back) => (session, .next)
              | result => result
      | "command" =>
          match arguments with
          | ['-', 'v'] :: name :: _ =>
              let text := Octets.toText name
              if specialNames.contains text || builtinNames.contains text then
                (session.print (name ++ ['\n']) 0, .next)
              else if (Host.Launch.ofName session.tree session.directory session.searchPath
                  text).isOk then
                (session.print (name ++ ['\n']) 0, .next)
              else (session.withCode 127, .next)
          | name :: arguments =>
              call bound [] name arguments { session with functions := [] }
          | [] => (session.withCode 0, .next)
      | "kill" =>
          match Session.signalArguments? arguments with
          | none => (session.withCode 2, .next)
          | some (signal, processes) =>
              if processes.isEmpty then (session.withCode 2, .next)
              else if processes.all (· == Session.processNumber) then
                match session.trap? signal, Host.SignalEffect.of signal with
                | _, .ignored => (session.withCode 0, .next)
                | none, .stopped => (session, .endless)
                | none, .killed => (session, .killed signal)
                | some action, _ =>
                    if signal == 9 then (session, .killed 9)
                    else if signal == 19 then (session, .endless)
                    else
                      match runText bound action (session.withCode 0) with
                      | (session, .next) => (session.withCode 0, .next)
                      | result => result
              else (session.withCode 1, .next)
      | name => (plainBuiltin name arguments session, .next)

/-- The program with a name, or a failure of the shell to start it. -/
def runNamed (bound : Nat) (assigned : List (Octets × Octets)) (words : List Octets)
    (session : Session) : Session × Option Host.Status :=
  match bound with
  | 0 => (session, none)
  | bound + 1 =>
      match words with
      | [] => (session, some (.exited 0))
      | name :: arguments =>
          match Host.Launch.ofName session.tree session.directory session.searchPath
              (Octets.toText name) with
          | .ok launch =>
              let prefixed := launch.arguments.map Octets.ofText ++ arguments
              let (inner, status) := runProgram bound launch.name prefixed (session.started assigned)
              (session.after inner, status)
          | .error .denied => (session, some (.exited 126))
          | .error _ => (session, some (.exited 127))

/-- A program of the system. Nothing is given for one that never ends. -/
def runProgram (bound : Nat) (name : String) (arguments : List Octets) (session : Session) :
    Session × Option Host.Status :=
  match bound with
  | 0 => (session, none)
  | bound + 1 =>
      match name with
      | "sh" => runShell bound arguments session
      | "env" =>
          match arguments with
          | [] => (session, some (.exited 0))
          | argument :: rest =>
              match argument.dropWhile (· != '=') with
              | _ :: value =>
                  let name := argument.takeWhile (· != '=')
                  runProgram bound "env" rest
                    { session.assign name value with exported := name :: session.exported }
              | [] => runNamed bound [] arguments session
      | name =>
          let effect := Utility.run name session.surroundings session.input arguments
          let session := session.afterEffect effect
          (session, if effect.isEndless then none else some (.exited session.code))

/-- A shell with arguments. -/
def runShell (bound : Nat) (arguments : List Octets) (session : Session) :
    Session × Option Host.Status :=
  match bound with
  | 0 => (session, none)
  | bound + 1 =>
      match arguments with
      | ('-' :: c :: letters) :: rest =>
          let letters := c :: letters
          let session := session.setOptions true letters
          if letters.contains 'c' then
            match rest with
            | [] => (session, some (.exited 2))
            | script :: rest =>
                let session := match rest with
                  | [] => { session with name := ['s', 'h'], arguments := [] }
                  | name :: arguments => { session with name := name, arguments := arguments }
                finish bound script session
          else runShell bound rest session
      | file :: rest =>
          match session.read? file with
          | some script => finish bound script { session with name := file, arguments := rest }
          | none => (session, some (.exited 2))
      | [] =>
          finish bound session.input
            { session with name := ['s', 'h'], arguments := [], input := [] }

/-- A whole script, and what is to be done at its end. -/
def finish (bound : Nat) (script : Octets) (session : Session) : Session × Option Host.Status :=
  match bound with
  | 0 => (session, none)
  | bound + 1 =>
      match runText bound script session with
      | (session, .killed signal) => (session, some (.killed signal))
      | (session, .endless) => (session, none)
      | (session, _) =>
          match session.trap? 0 with
          | none => (session, some (.exited session.code))
          | some action =>
              let code := session.code
              match runText bound action session with
              | (session, .killed signal) => (session, some (.killed signal))
              | (session, .endless) => (session, none)
              | (session, .done) => (session, some (.exited session.code))
              | (session, _) => (session, some (.exited code))

/-- The lines of a script in turn. -/
def runText (bound : Nat) (script : Octets) (session : Session) : Session × Flow :=
  match bound with
  | 0 => (session, .endless)
  | bound + 1 =>
      match Reader.nextLine? script with
      | none => (session, .next)
      | some none => session.fault
      | some (some (command, rest)) =>
          match run bound false command session with
          | (session, .next) => runText bound rest session
          | result => result

end

/-- The bound for the depth of running a program. -/
def depthBound : Nat := 200000

end Toolmark.Shell
