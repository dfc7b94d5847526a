import Toolmark.Shell.Script

/-!
# Reading scripts

The grammar of the shell language. A script is read line by line, so that what stands before a fault
is run. Every reader gets a bound for the depth of its work and gives what remains of the text.
-/

namespace Toolmark.Shell.Reader

/-- A character that ends a word. -/
def isMeta (c : Char) : Bool := [' ', '\t', '\n', ';', '&', '|', '<', '>', '(', ')'].contains c

/-- A character of a name. -/
def isNameChar (c : Char) : Bool := c.isAlphanum || c == '_'

/-- The text is a name. -/
def isName (text : Octets) : Bool :=
  match text with
  | c :: _ => !c.isDigit && text.all isNameChar
  | [] => false

/-- The text behind blanks, comments and joined lines. -/
def skipBlanks : Octets → Octets
  | ' ' :: rest => skipBlanks rest
  | '\t' :: rest => skipBlanks rest
  | '\\' :: '\n' :: rest => skipBlanks rest
  | '#' :: rest => rest.dropWhile (· != '\n')
  | text => text

/-- The text behind empty lines, given a bound for their number. -/
def skipLines : Nat → Octets → Octets
  | 0, text => text
  | bound + 1, text =>
      match skipBlanks text with
      | '\n' :: rest => skipLines bound rest
      | text => text

/-- The text up to a quote and the text behind it. -/
def upTo (mark : Char) : Octets → Option (Octets × Octets)
  | [] => none
  | c :: rest =>
      if c == mark then some ([], rest)
      else (upTo mark rest).map fun (text, rest) => (c :: text, rest)

/-- The text up to a grave accent, with its escapes resolved, and the text behind it. -/
def upToGrave : Octets → Option (Octets × Octets)
  | [] => none
  | '\x60' :: rest => some ([], rest)
  | '\\' :: c :: rest =>
      (upToGrave rest).map fun (text, rest) =>
        (if ['\x60', '$', '\\'].contains c then c :: text else '\\' :: c :: text, rest)
  | c :: rest => (upToGrave rest).map fun (text, rest) => (c :: text, rest)

/-- The text up to two closing parentheses that belong to no opening one, and the text behind them.
-/
def upToParens (depth : Nat) : Octets → Option (Octets × Octets)
  | [] => none
  | ')' :: rest =>
      match depth, rest with
      | 0, ')' :: rest => some ([], rest)
      | 0, _ => none
      | depth + 1, rest => (upToParens depth rest).map fun (text, rest) => (')' :: text, rest)
  | '(' :: rest => (upToParens (depth + 1) rest).map fun (text, rest) => ('(' :: text, rest)
  | c :: rest => (upToParens depth rest).map fun (text, rest) => (c :: text, rest)

/-- The word that stands at the beginning of a text, if it has no quotes and no expansions. -/
def keyword (text : Octets) : String :=
  String.ofList (text.takeWhile fun c => !isMeta c && !(['\'', '"', '\\', '$', '\x60'].contains c))

/-- The words that end a list of commands. -/
def closers : List String := ["then", "elif", "else", "fi", "do", "done", "esac", "\x7d"]

/-- The text begins with something that ends a list of commands. -/
def isAtEnd (text : Octets) : Bool :=
  match text with
  | [] => true
  | ')' :: _ => true
  | ';' :: ';' :: _ => true
  | _ => closers.contains (keyword text)

/-- The text behind a word that has to stand at its beginning. -/
def expect (word : String) (text : Octets) : Option Octets :=
  if keyword text == word then some (text.drop word.length) else none

/-- A piece of quoted or of bare text. -/
def textPiece (isQuoted : Bool) (text : Octets) : Piece :=
  if isQuoted then .quoted text else .bare text

/-- The name and the value in a word that is an assignment. -/
def assignment? : Word → Option (Octets × Word)
  | .bare text :: rest =>
      let name := text.takeWhile (· != '=')
      match text.dropWhile (· != '=') with
      | _ :: value => if isName name then some (name, .bare value :: rest) else none
      | [] => none
  | _ => none

/-- The command that runs a simple command with what has been read. -/
def simpleCommand (words : List Word) (redirections : List Redirection) : Command :=
  let assignments := (words.map assignment?).takeWhile Option.isSome
  .simple (assignments.filterMap id) (words.drop assignments.length) redirections

/-- Where the text of a word ends. -/
inductive Ending where
  /-- Before a character that ends words. -/
  | atMeta
  /-- Before a closing quote. -/
  | atQuote
  /-- Before a closing brace. -/
  | atBrace (isQuoted : Bool)
  /-- At the end of the text. -/
  | atNothing

namespace Ending

/-- The text within stands in quotes. -/
def isQuoted : Ending → Bool
  | atMeta => false
  | atQuote => true
  | atBrace isQuoted => isQuoted
  | atNothing => true

/-- The word ends before a character. -/
def isReached (ending : Ending) (c : Char) : Bool :=
  match ending with
  | atMeta => isMeta c
  | atQuote => c == '"'
  | atBrace _ => c == '\x7d'
  | atNothing => false

/-- The end of the text may end the word. -/
def allowsEnd : Ending → Bool
  | atMeta => true
  | atNothing => true
  | _ => false

end Ending

/-- The characters that a backslash makes plain within quotes. -/
def escapable : List Char := ['$', '\x60', '"', '\\']

/-- The characters that can be the whole name of a parameter. -/
def specialNames : List Char := ['#', '@', '*', '?', '$', '!', '-']

/-- The name of a parameter in braces. -/
def bracedName (text : Octets) : Octets × Octets :=
  match text with
  | c :: rest =>
      if c.isDigit then (text.takeWhile Char.isDigit, text.dropWhile Char.isDigit)
      else if specialNames.contains c then ([c], rest)
      else (text.takeWhile isNameChar, text.dropWhile isNameChar)
  | [] => ([], [])

mutual

/-- The pieces of a word. -/
def pieces (bound : Nat) (ending : Ending) (text : Octets) : Option (Word × Octets) :=
  match bound with
  | 0 => none
  | bound + 1 =>
      let put (piece : Piece) (rest : Octets) : Option (Word × Octets) :=
        (pieces bound ending rest).map fun (word, rest) => (piece :: word, rest)
      match text with
      | [] => if ending.allowsEnd then some ([], []) else none
      | c :: rest =>
          if ending.isReached c then some ([], text)
          else
            match c, rest with
            | '\\', '\n' :: rest => pieces bound ending rest
            | '\\', c :: rest =>
                if ending.isQuoted && !escapable.contains c then put (.quoted ['\\', c]) rest
                else put (.quoted [c]) rest
            | '$', rest => do
                let (piece, rest) ← dollar bound ending.isQuoted rest
                put piece rest
            | '\x60', rest => do
                let (script, rest) ← upToGrave rest
                let (body, _) ← commands bound script
                put (.output body ending.isQuoted) rest
            | '\'', rest =>
                if ending.isQuoted then put (.quoted ['\'']) rest
                else do
                  let (text, rest) ← upTo '\'' rest
                  put (.quoted text) rest
            | '"', rest => do
                let (word, rest) ← pieces bound .atQuote rest
                let (more, rest) ← pieces bound ending (rest.drop 1)
                some ((if word.isEmpty then [.quoted []] else word) ++ more, rest)
            | c, rest => do
                let isPlain (c : Char) : Bool :=
                  !ending.isReached c && !(['\\', '$', '\x60', '\'', '"'].contains c)
                let run := c :: rest.takeWhile isPlain
                put (textPiece ending.isQuoted run) (rest.dropWhile isPlain)

/-- The expansion behind a dollar sign. -/
def dollar (bound : Nat) (isQuoted : Bool) (text : Octets) : Option (Piece × Octets) :=
  match bound with
  | 0 => none
  | bound + 1 =>
      match text with
      | '(' :: '(' :: rest => do
          let (inner, rest) ← upToParens 0 rest
          let (word, _) ← pieces bound .atNothing inner
          some (.number word isQuoted, rest)
      | '(' :: rest => do
          let (body, rest) ← commands bound rest
          match rest with
          | ')' :: rest => some (.output body isQuoted, rest)
          | _ => none
      | '\x7b' :: '#' :: '\x7d' :: rest => some (.parameter ['#'] .keep isQuoted, rest)
      | '\x7b' :: '#' :: rest =>
          match bracedName rest with
          | (name, '\x7d' :: rest) => some (.parameter name .length isQuoted, rest)
          | _ => none
      | '\x7b' :: rest => do
          let (name, rest) := bracedName rest
          if name.isEmpty then none
          else do
            let (change, rest) ← change bound isQuoted rest
            some (.parameter name change isQuoted, rest)
      | c :: rest =>
          if c.isDigit || specialNames.contains c then some (.parameter [c] .keep isQuoted, rest)
          else if isNameChar c then
            some (.parameter (text.takeWhile isNameChar) .keep isQuoted,
              text.dropWhile isNameChar)
          else some (textPiece isQuoted ['$'], text)
      | [] => some (textPiece isQuoted ['$'], [])

/-- The change of a parameter in braces, up to the closing brace. -/
def change (bound : Nat) (isQuoted : Bool) (text : Octets) : Option (Change × Octets) :=
  match bound with
  | 0 => none
  | bound + 1 =>
      let word (rest : Octets) (make : Word → Change) : Option (Change × Octets) := do
        let (word, rest) ← pieces bound (.atBrace isQuoted) rest
        some (make word, rest.drop 1)
      match text with
      | '\x7d' :: rest => some (.keep, rest)
      | ':' :: '-' :: rest => word rest (.orElse true)
      | '-' :: rest => word rest (.orElse false)
      | ':' :: '=' :: rest => word rest (.orAssign true)
      | '=' :: rest => word rest (.orAssign false)
      | ':' :: '?' :: rest => word rest fun _ => .orFail true
      | '?' :: rest => word rest fun _ => .orFail false
      | ':' :: '+' :: rest => word rest (.instead true)
      | '+' :: rest => word rest (.instead false)
      | '#' :: '#' :: rest => word rest (.withoutStart true)
      | '#' :: rest => word rest (.withoutStart false)
      | '%' :: '%' :: rest => word rest (.withoutEnd true)
      | '%' :: rest => word rest (.withoutEnd false)
      | _ => none

/-- A word that has to be there, behind blanks. -/
def word (bound : Nat) (text : Octets) : Option (Word × Octets) :=
  match bound with
  | 0 => none
  | bound + 1 =>
      match pieces bound .atMeta (skipBlanks text) with
      | some ([], _) => none
      | result => result

/-- A redirection, if one stands at the beginning of the text. -/
def redirection? (bound : Nat) (text : Octets) : Option (Option (Redirection × Octets)) :=
  match bound with
  | 0 => some none
  | bound + 1 =>
      let digits := text.takeWhile Char.isDigit
      let number := digits.foldl (fun value c => 10 * value + (c.toNat - '0'.toNat)) 0
      let make (default : Nat) (target : Word → Target) (rest : Octets) : Option (Redirection × Octets) := do
        let (path, rest) ← word bound rest
        some (.of (if digits.isEmpty then default else number) (target path), rest)
      match text.drop digits.length with
      | '>' :: '>' :: rest => some (make 1 .append rest)
      | '>' :: '|' :: rest => some (make 1 .output rest)
      | '>' :: '&' :: rest => some (make 1 .copy rest)
      | '>' :: rest => some (make 1 .output rest)
      | '<' :: '<' :: _ => some none
      | '<' :: '>' :: rest => some (make 0 .input rest)
      | '<' :: '&' :: rest => some (make 0 .copy rest)
      | '<' :: rest => some (make 0 .input rest)
      | _ => none

/-- Words and redirections, as many as there are. -/
def arguments (bound : Nat) (text : Octets) : Option ((List Word × List Redirection) × Octets) :=
  match bound with
  | 0 => none
  | bound + 1 =>
      let text := skipBlanks text
      match redirection? bound text with
      | some result => do
          let (redirection, rest) ← result
          let ((words, redirections), rest) ← arguments bound rest
          some ((words, redirection :: redirections), rest)
      | none => do
          let (first, rest) ← pieces bound .atMeta text
          if first.isEmpty then some (([], []), text)
          else do
            let ((words, redirections), rest) ← arguments bound rest
            some ((first :: words, redirections), rest)

/-- Redirections behind a compound command. -/
def redirections (bound : Nat) (text : Octets) : Option (List Redirection × Octets) :=
  match bound with
  | 0 => none
  | bound + 1 =>
      match redirection? bound (skipBlanks text) with
      | some result => do
          let (redirection, rest) ← result
          let (more, rest) ← redirections bound rest
          some (redirection :: more, rest)
      | none => some ([], text)

/-- A simple or a compound command. -/
def command (bound : Nat) (text : Octets) : Option (Command × Octets) :=
  match bound with
  | 0 => none
  | bound + 1 =>
      let text := skipBlanks text
      let compound (result : Option (Command × Octets)) : Option (Command × Octets) := do
        let (command, rest) ← result
        let (redirections, rest) ← redirections bound rest
        some (if redirections.isEmpty then command else .redirected command redirections, rest)
      match text with
      | '(' :: rest => compound do
          let (body, rest) ← commands bound rest
          match rest with
          | ')' :: rest => some (.apart body, rest)
          | _ => none
      | _ =>
          let key := keyword text
          let rest := text.drop key.length
          match key with
          | "\x7b" => compound do
              let (body, rest) ← commands bound rest
              let rest ← expect "\x7d" rest
              some (body, rest)
          | "if" => compound (conditional bound rest)
          | "while" => compound (loop bound true rest)
          | "until" => compound (loop bound false rest)
          | "for" => compound (enumeration bound rest)
          | "case" => compound (selection bound rest)
          | _ =>
              if isAtEnd text then none
              else
                match skipBlanks rest with
                | '(' :: rest => do
                    let rest ← match skipBlanks rest with
                      | ')' :: rest => some rest
                      | _ => none
                    let (body, rest) ← command bound (skipLines bound rest)
                    if isName key.toList then some (.definition key.toList body, rest) else none
                | _ => do
                    let ((words, redirections), rest) ← arguments bound text
                    if words.isEmpty && redirections.isEmpty then none
                    else some (simpleCommand words redirections, rest)

/-- A choice, behind its first word. -/
def conditional (bound : Nat) (text : Octets) : Option (Command × Octets) :=
  match bound with
  | 0 => none
  | bound + 1 => do
      let (condition, rest) ← commands bound text
      let rest ← expect "then" rest
      let (yes, rest) ← commands bound rest
      match keyword rest with
      | "fi" => some (.choice condition yes .nothing, rest.drop 2)
      | "else" =>
          let (no, rest) ← commands bound (rest.drop 4)
          let rest ← expect "fi" rest
          some (.choice condition yes no, rest)
      | "elif" =>
          let (no, rest) ← conditional bound (rest.drop 4)
          some (.choice condition yes no, rest)
      | _ => none

/-- A repetition, behind its first word. -/
def loop (bound : Nat) (whileSuccess : Bool) (text : Octets) : Option (Command × Octets) :=
  match bound with
  | 0 => none
  | bound + 1 => do
      let (condition, rest) ← commands bound text
      let rest ← expect "do" rest
      let (body, rest) ← commands bound rest
      let rest ← expect "done" rest
      some (.repetition whileSuccess condition body, rest)

/-- A repetition for words, behind its first word. -/
def enumeration (bound : Nat) (text : Octets) : Option (Command × Octets) :=
  match bound with
  | 0 => none
  | bound + 1 => do
      let text := skipBlanks text
      let name := text.takeWhile isNameChar
      if !isName name then none
      else do
        let rest := skipLines bound (text.drop name.length)
        let (words, rest) ← match keyword rest with
          | "in" => do
              let ((words, _), rest) ← arguments bound (rest.drop 2)
              some (some words, rest)
          | _ => some (none, rest)
        let rest := match skipBlanks rest with
          | ';' :: rest => rest
          | rest => rest
        let rest ← expect "do" (skipLines bound rest)
        let (body, rest) ← commands bound rest
        let rest ← expect "done" rest
        some (.each name words body, rest)

/-- A choice by patterns, behind its first word. -/
def selection (bound : Nat) (text : Octets) : Option (Command × Octets) :=
  match bound with
  | 0 => none
  | bound + 1 => do
      let (subject, rest) ← word bound text
      let rest ← expect "in" (skipLines bound rest)
      let (clauses, rest) ← clauses bound rest
      some (.cases subject clauses, rest)

/-- The clauses of a choice by patterns, with the word that ends them. -/
def clauses (bound : Nat) (text : Octets) : Option (List (List Word × Command) × Octets) :=
  match bound with
  | 0 => none
  | bound + 1 =>
      let text := skipLines bound text
      match keyword text with
      | "esac" => some ([], text.drop 4)
      | _ => do
          let text := match text with
            | '(' :: rest => rest
            | text => text
          let (patterns, rest) ← patterns bound text
          let (body, rest) ← commands bound rest
          match rest with
          | ';' :: ';' :: rest =>
              let (more, rest) ← clauses bound rest
              some ((patterns, body) :: more, rest)
          | _ =>
              let rest ← expect "esac" rest
              some ([(patterns, body)], rest)

/-- The patterns of a clause, with the parenthesis that ends them. -/
def patterns (bound : Nat) (text : Octets) : Option (List Word × Octets) :=
  match bound with
  | 0 => none
  | bound + 1 => do
      let (pattern, rest) ← word bound text
      match skipBlanks rest with
      | ')' :: rest => some ([pattern], rest)
      | '|' :: rest =>
          let (more, rest) ← patterns bound rest
          some (pattern :: more, rest)
      | _ => none

/-- Commands joined by pipes. -/
def pipeline (bound : Nat) (text : Octets) : Option (Command × Octets) :=
  match bound with
  | 0 => none
  | bound + 1 => do
      let text := skipBlanks text
      let isNegated := keyword text == "!"
      let text := if isNegated then skipBlanks (text.drop 1) else text
      if keyword text == "!" then none
      else
        let (first, rest) ← command bound text
        let (pipeline, rest) ← pipes bound first rest
        some (if isNegated then .negated pipeline else pipeline, rest)

/-- The commands that read the output of a command. -/
def pipes (bound : Nat) (first : Command) (text : Octets) : Option (Command × Octets) :=
  match bound with
  | 0 => none
  | bound + 1 =>
      match skipBlanks text with
      | '|' :: '|' :: _ => some (first, text)
      | '|' :: rest => do
          let (second, rest) ← command bound (skipLines bound rest)
          pipes bound (.pipe first second) rest
      | _ => some (first, text)

/-- Pipelines joined by conditions. -/
def conditions (bound : Nat) (text : Octets) : Option (Command × Octets) :=
  match bound with
  | 0 => none
  | bound + 1 => do
      let (first, rest) ← pipeline bound text
      moreConditions bound first rest

/-- The pipelines that depend on the status of a command. -/
def moreConditions (bound : Nat) (first : Command) (text : Octets) : Option (Command × Octets) :=
  match bound with
  | 0 => none
  | bound + 1 =>
      match skipBlanks text with
      | '&' :: '&' :: rest => do
          let (second, rest) ← pipeline bound (skipLines bound rest)
          moreConditions bound (.both first second) rest
      | '|' :: '|' :: rest => do
          let (second, rest) ← pipeline bound (skipLines bound rest)
          moreConditions bound (.either first second) rest
      | _ => some (first, text)

/-- The commands of one line, with the line feed that ends it. -/
def line (bound : Nat) (text : Octets) : Option (Command × Octets) :=
  match bound with
  | 0 => none
  | bound + 1 => do
      let (first, rest) ← conditions bound text
      let (first, rest) := match skipBlanks rest with
        | '&' :: rest => (Command.background first, ';' :: rest)
        | rest => (first, rest)
      match skipBlanks rest with
      | ';' :: ';' :: _ => some (first, skipBlanks rest)
      | ';' :: rest =>
          let rest := skipBlanks rest
          match rest with
          | '\n' :: rest => some (first, rest)
          | _ =>
              if isAtEnd rest then some (first, rest)
              else do
                let (more, rest) ← line bound rest
                some (.sequence first more, rest)
      | '\n' :: rest => some (first, rest)
      | rest => if isAtEnd rest then some (first, rest) else none

/-- The commands up to something that ends a list. -/
def commands (bound : Nat) (text : Octets) : Option (Command × Octets) :=
  match bound with
  | 0 => none
  | bound + 1 => do
      let text := skipLines bound text
      if isAtEnd text then some (.nothing, text)
      else
        let (first, rest) ← line bound text
        let (more, rest) ← commands bound rest
        some (.sequence first more, rest)

end

/-- The bound for the depth of reading a text. -/
def bound (text : Octets) : Nat := 24 * text.length + 64

/-- The next line of a script with commands, if the script has not ended. A fault is shown as the
absence of a result. -/
def nextLine? (text : Octets) : Option (Option (Command × Octets)) :=
  let text := skipLines (text.length + 1) text
  if text.isEmpty then none else some (line (bound text) text)

/-- The commands of a whole script. -/
def script? (text : Octets) : Option Command :=
  match commands (bound text) text with
  | some (command, []) => some command
  | _ => none

end Toolmark.Shell.Reader
