import Toolmark.Shell.Condition
import Toolmark.Shell.Format

/-!
# Programs of the system

Small programs that scripts and detectors can run: what each prints, how it ends and how long it
takes.
-/

namespace Toolmark.Shell

/-- What a program can learn from its host. -/
structure Surroundings where
  /-- The entry at a path. -/
  lookup : Octets → Option Host.Entry
  /-- The octets of a file. -/
  read : Octets → Option Octets
  /-- The names in a directory. -/
  names : Octets → List Octets

/-- What a program did. -/
structure Effect where
  /-- Its output. -/
  output : Octets
  /-- The code with which it ended. -/
  code : Nat
  /-- The input that it has left. -/
  input : Octets
  /-- The milliseconds that it took. -/
  duration : Nat
  /-- The program goes on for ever. -/
  isEndless : Bool

namespace Effect

/-- A program that prints, reads nothing and takes no time. -/
def prints (input output : Octets) (isSuccess : Bool) : Effect where
  output := output
  code := if isSuccess then 0 else 1
  input := input
  duration := 0
  isEndless := false

end Effect

namespace Utility

/-- The names of the programs. -/
def names : List String :=
  ["[", "basename", "cat", "dirname", "echo", "false", "head", "ls", "printf", "seq", "sleep",
    "tail", "test", "tr", "true", "wc", "yes"]

/-- The lines of a text, each with its line feed. -/
def lines (text : Octets) : List Octets :=
  let step (c : Char) : List Octets → List Octets
    | [] => [[c]]
    | line :: rest => if c == '\n' then [c] :: line :: rest else (c :: line) :: rest
  text.foldr step []

/-- The texts of files, or of the input if there are none, and whether all could be read. -/
def texts (surroundings : Surroundings) (input : Octets) (paths : List Octets) :
    List Octets × Bool :=
  if paths.isEmpty then ([input], true)
  else
    let contents := paths.map fun path =>
      if path == ['-'] then some input else surroundings.read path
    (contents.filterMap id, contents.all Option.isSome)

/-- The milliseconds that a text with a unit stands for; nothing if it has the wrong form. -/
def milliseconds? (text : Octets) : Option Nat :=
  let isUnit (c : Char) : Bool := ['s', 'm', 'h', 'd'].contains c
  let unit := match text.getLast? with
    | some 'm' => 60
    | some 'h' => 3600
    | some 'd' => 86400
    | _ => 1
  let number := if text.getLast?.any isUnit then text.dropLast else text
  let whole := number.takeWhile Char.isDigit
  let digits := match number.drop whole.length with
    | '.' :: digits => some digits
    | [] => some []
    | _ => none
  digits.bind fun digits =>
    if !digits.all Char.isDigit || (whole.isEmpty && digits.isEmpty) then none
    else
      let value (digits : Octets) : Nat :=
        digits.foldl (fun value c => 10 * value + (c.toNat - '0'.toNat)) 0
      some (unit * (1000 * value whole + value (Format.pad true '0' 3 (digits.take 3))))

/-- The effect of waiting. -/
def sleep (input : Octets) (arguments : List Octets) : Effect :=
  match arguments.mapM fun argument =>
      if argument == "infinity".toList then some none else (milliseconds? argument).map some with
  | none => .prints input [] false
  | some [] => .prints input [] false
  | some durations =>
      { Effect.prints input [] true with
        duration := durations.foldl (fun total duration => total + duration.getD 0) 0
        isEndless := durations.any Option.isNone }

/-- The number behind an option, attached to it or in the next argument, and the arguments left. -/
def optionValue? (letter : Char) (arguments : List Octets) : Option (Octets × List Octets) :=
  match arguments with
  | ('-' :: c :: value) :: rest =>
      if c != letter then none
      else if value.isEmpty then
        match rest with
        | value :: rest => some (value, rest)
        | [] => none
      else some (value, rest)
  | _ => none

/-- The beginning or the end of files, by lines or by octets. -/
def part (isHead : Bool) (surroundings : Surroundings) (input : Octets)
    (arguments : List Octets) : Effect :=
  let cut (byLines : Bool) (count : Octets) (paths : List Octets) : Effect :=
    match Arithmetic.ofDigits? 10 count with
    | none => .prints input [] false
    | some count =>
        let pick (text : Octets) : Octets :=
          if byLines then
            let lines := lines text
            (if isHead then lines.take count.toNat
              else lines.drop (lines.length - count.toNat)).flatten
          else if isHead then text.take count.toNat
          else text.drop (text.length - count.toNat)
        let (texts, isComplete) := texts surroundings input paths
        .prints [] (texts.flatMap pick) isComplete
  match optionValue? 'n' arguments, optionValue? 'c' arguments, arguments with
  | some (count, paths), _, _ => cut true count paths
  | _, some (count, paths), _ => cut false count paths
  | _, _, ('-' :: c :: digits) :: paths =>
      if c.isDigit then cut true (c :: digits) paths else .prints input [] false
  | _, _, paths => cut true ['1', '0'] paths

/-- The counts of lines, words or octets of files. -/
def count (surroundings : Surroundings) (input : Octets) (arguments : List Octets) : Effect :=
  let measure (letter : Char) (text : Octets) : Nat :=
    match letter with
    | 'l' => text.count '\n'
    | 'w' => (Octets.toText text).split Char.isWhitespace |>.filter (!·.isEmpty) |>.length
    | _ => text.length
  match arguments with
  | ['-', letter] :: paths =>
      let (texts, isComplete) := texts surroundings input paths
      let shown := texts.zipIdx.map fun (text, index) =>
        let name := match paths[index]? with
          | some path => ' ' :: path
          | none => []
        Octets.ofNat (measure letter text) ++ name ++ ['\n']
      .prints [] shown.flatten isComplete
  | _ => .prints input [] false

/-- The numbers from a first to a last one in steps, given a bound for their number. -/
def progression : Nat → Int → Int → Int → List Int
  | 0, _, _, _ => []
  | bound + 1, first, step, last =>
      if (0 < step && last < first) || (step < 0 && first < last) || step = 0 then []
      else first :: progression bound (first + step) step last

/-- Numbers in turn, each on its line. -/
def sequence (input : Octets) (arguments : List Octets) : Effect :=
  let show? (first step last : Octets) : Option Octets := do
    let first ← Arithmetic.ofText? first
    let step ← Arithmetic.ofText? step
    let last ← Arithmetic.ofText? last
    let numbers := progression ((last - first).natAbs + 1) first step last
    some (numbers.flatMap fun number => (toString number).toList ++ ['\n'])
  let text := match arguments with
    | [last] => show? ['1'] ['1'] last
    | [first, last] => show? first ['1'] last
    | [first, step, last] => show? first step last
    | _ => none
  match text with
  | some text => .prints input text true
  | none => .prints input [] false

/-- The characters of a set with its ranges and escapes, given a bound for its length. -/
def setOf : Nat → Octets → Octets
  | 0, _ => []
  | _, [] => []
  | bound + 1, '\\' :: c :: rest =>
      if Format.isOctal c then
        let digits := Format.octalDigits (c :: rest)
        Format.octet digits :: setOf bound ((c :: rest).drop digits.length)
      else (Format.control? c).getD c :: setOf bound rest
  | bound + 1, first :: '-' :: last :: rest =>
      ((List.range (last.toNat + 1 - first.toNat)).map fun offset =>
        Char.ofNat (first.toNat + offset)) ++ setOf bound rest
  | bound + 1, c :: rest => c :: setOf bound rest

/-- The input with characters replaced or removed. -/
def exchange (input : Octets) (arguments : List Octets) : Effect :=
  match arguments with
  | [['-', 'd'], set] =>
      let set := setOf set.length set
      .prints [] (input.filter fun c => !set.contains c) true
  | [first, second] =>
      let first := setOf first.length first
      let second := setOf second.length second
      let replace (c : Char) : Char :=
        match (first.idxOf? c), second.getLast? with
        | some index, some last => second.getD index last
        | _, _ => c
      .prints [] (input.map replace) (!second.isEmpty)
  | _ => .prints input [] false

/-- The last name of a path. -/
def lastName (path : Octets) : Octets :=
  let path := (path.reverse.dropWhile (· == '/')).reverse
  if path.isEmpty then ['/'] else (path.reverse.takeWhile (· != '/')).reverse

/-- The path without its last name. -/
def parent (path : Octets) : Octets :=
  let trim (path : Octets) : Octets := (path.reverse.dropWhile (· == '/')).reverse
  let above := ((trim path).reverse.dropWhile (· != '/')).reverse
  if above.isEmpty then (if path.head? == some '/' then ['/'] else ['.'])
  else if (trim above).isEmpty then ['/'] else trim above

/-- The names of files, and the names in directories. -/
def list (surroundings : Surroundings) (input : Octets) (arguments : List Octets) : Effect :=
  let paths := if arguments.isEmpty then [['.']] else arguments
  let shown := paths.map fun path =>
    match surroundings.lookup path with
    | some .directory => some (surroundings.names path)
    | some _ => some [path]
    | none => none
  let output := (shown.filterMap id).flatten.flatMap fun name => name ++ ['\n']
  { Effect.prints input output true with code := if shown.all Option.isSome then 0 else 2 }

/-- The lines of a text, each behind its number. -/
def numbered (text : Octets) : Octets :=
  ((lines text).zipIdx.map fun (line, index) =>
    Format.pad false ' ' 6 (Octets.ofNat (index + 1)) ++ '\t' :: line).flatten

/-- The texts of files, one behind the other. -/
def concatenation (surroundings : Surroundings) (input : Octets) (arguments : List Octets) :
    Effect :=
  let isOption (argument : Octets) : Bool := argument.head? == some '-' && argument != ['-']
  let options := arguments.takeWhile isOption
  let (texts, isComplete) := texts surroundings input (arguments.drop options.length)
  if !options.all [['-', 'u'], ['-', 'n'], ['-', '-']].contains then .prints input [] false
  else if options.contains ['-', 'n'] then .prints [] (numbered texts.flatten) isComplete
  else .prints [] texts.flatten isComplete

/-- The words of `echo` as a program, which knows no escapes. -/
def echo (words : List Octets) : Octets :=
  match words with
  | ['-', 'n'] :: words => Format.joined words
  | ['-', 'e'] :: words => Format.echo words
  | words => Format.joined words ++ ['\n']

/-- The number of lines that stand for an output without end. -/
def endlessLines : Nat := 100000

/-- The effect of a program with arguments on an input. -/
def run (name : String) (surroundings : Surroundings) (input : Octets)
    (arguments : List Octets) : Effect :=
  let condition (words : List Octets) : Effect :=
    match Condition.answer? surroundings.lookup words with
    | some answer => .prints input [] answer
    | none => { Effect.prints input [] false with code := 2 }
  match name with
  | "cat" => concatenation surroundings input arguments
  | "echo" => .prints input (echo arguments) true
  | "printf" =>
      let (text, isRight) := Format.printf arguments
      .prints input text isRight
  | "true" => .prints input [] true
  | "test" => condition arguments
  | "[" =>
      if arguments.getLast? == some [']'] then condition arguments.dropLast
      else { Effect.prints input [] false with code := 2 }
  | "sleep" => sleep input arguments
  | "head" => part true surroundings input arguments
  | "tail" => part false surroundings input arguments
  | "wc" => count surroundings input arguments
  | "seq" => sequence input arguments
  | "tr" => exchange input arguments
  | "basename" => .prints input (lastName (arguments.headD []) ++ ['\n']) (!arguments.isEmpty)
  | "dirname" => .prints input (parent (arguments.headD []) ++ ['\n']) (!arguments.isEmpty)
  | "ls" => list surroundings input arguments
  | "yes" =>
      let line := (if arguments.isEmpty then ['y'] else Format.joined arguments) ++ ['\n']
      { Effect.prints input (List.replicate endlessLines line).flatten true with isEndless := true }
  | _ => .prints input [] false

end Utility

end Toolmark.Shell
