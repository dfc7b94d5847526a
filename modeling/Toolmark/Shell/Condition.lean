import Toolmark.Host.Tree
import Toolmark.Shell.Arithmetic

/-!
# Conditions of the shell

The conditions of the command `test` over texts, numbers and files.
-/

namespace Toolmark.Shell.Condition

/-- What a condition can ask about files. -/
abbrev Lookup := Octets → Option Host.Entry

/-- The answer of a condition with one operand, if its operator is known. -/
def one? (lookup : Lookup) (operator : String) (operand : Octets) : Option Bool :=
  match operator with
  | "-n" => some (!operand.isEmpty)
  | "-z" => some operand.isEmpty
  | "-e" => some (lookup operand).isSome
  | "-f" => some (match lookup operand with
      | some (.file _ _) => true
      | some (.program _) => true
      | _ => false)
  | "-d" => some (lookup operand == some .directory)
  | "-r" => some (lookup operand).isSome
  | "-w" => some (lookup operand).isSome
  | "-x" => some (match lookup operand with
      | some (.file _ runnable) => runnable
      | some _ => true
      | none => false)
  | "-s" => some (match lookup operand with
      | some (.file content _) => !content.isEmpty
      | some _ => true
      | none => false)
  | "-h" => some false
  | "-L" => some false
  | "-p" => some false
  | "-S" => some false
  | "-b" => some false
  | "-c" => some false
  | "-t" => some false
  | _ => none

/-- The answer of a comparison of numbers, if both texts are numbers. -/
def compare? (accepts : Int → Int → Bool) (left right : Octets) : Option (Option Bool) :=
  some do return accepts (← number? left) (← number? right)
where
  /-- The number in a text with blanks around it. -/
  number? (text : Octets) : Option Int :=
    let text := (Arithmetic.skipBlanks (Arithmetic.skipBlanks text).reverse).reverse
    match text with
    | '-' :: digits => (Arithmetic.ofDigits? 10 digits).map fun value => -value
    | '+' :: digits => Arithmetic.ofDigits? 10 digits
    | digits => Arithmetic.ofDigits? 10 digits

/-- The answer of a condition with two operands, if its operator is known: nothing if an operand has
the wrong form. -/
def two? (left : Octets) (operator : String) (right : Octets) : Option (Option Bool) :=
  match operator with
  | "=" => some (some (left == right))
  | "==" => some none
  | "!=" => some (some (left != right))
  | "-eq" => compare? (fun a b => a == b) left right
  | "-ne" => compare? (fun a b => a != b) left right
  | "-lt" => compare? (fun a b => a < b) left right
  | "-le" => compare? (fun a b => a ≤ b) left right
  | "-gt" => compare? (fun a b => b < a) left right
  | "-ge" => compare? (fun a b => b ≤ a) left right
  | _ => none

mutual

/-- The answer of conditions joined by `-o`, and the words behind them. -/
def anyOf (bound : Nat) (lookup : Lookup) (words : List Octets) : Option (Bool × List Octets) :=
  match bound with
  | 0 => none
  | bound + 1 => do
      let (first, rest) ← allOf bound lookup words
      match rest with
      | ['-', 'o'] :: rest =>
          let (second, rest) ← anyOf bound lookup rest
          some (first || second, rest)
      | rest => some (first, rest)

/-- The answer of conditions joined by `-a`, and the words behind them. -/
def allOf (bound : Nat) (lookup : Lookup) (words : List Octets) : Option (Bool × List Octets) :=
  match bound with
  | 0 => none
  | bound + 1 => do
      let (first, rest) ← single bound lookup words
      match rest with
      | ['-', 'a'] :: rest =>
          let (second, rest) ← allOf bound lookup rest
          some (first && second, rest)
      | rest => some (first, rest)

/-- The answer of a single condition, and the words behind it. -/
def single (bound : Nat) (lookup : Lookup) (words : List Octets) : Option (Bool × List Octets) :=
  match bound with
  | 0 => none
  | bound + 1 =>
      match words with
      | [] => some (false, [])
      | left :: operator :: right :: rest =>
          match two? left (Octets.toText operator) right with
          | some answer => answer.map fun answer => (answer, rest)
          | none => short bound lookup words
      | words => short bound lookup words

/-- The answer of a condition with one operand or none, and the words behind it. -/
def short (bound : Nat) (lookup : Lookup) (words : List Octets) : Option (Bool × List Octets) :=
  match bound with
  | 0 => none
  | bound + 1 =>
      match words with
      | [] => some (false, [])
      | [word] => some (!word.isEmpty, [])
      | ['!'] :: rest => (single bound lookup rest).map fun (answer, rest) => (!answer, rest)
      | ['('] :: rest => do
          let (answer, rest) ← anyOf bound lookup rest
          match rest with
          | [')'] :: rest => some (answer, rest)
          | _ => none
      | operator :: operand :: rest =>
          match one? lookup (Octets.toText operator) operand with
          | some answer => some (answer, rest)
          | none => some (!operator.isEmpty, operand :: rest)

end

/-- The answer of a condition, unless its words have the wrong form. -/
def answer? (lookup : Lookup) (words : List Octets) : Option Bool :=
  match anyOf (4 * words.length + 8) lookup words with
  | some (answer, []) => some answer
  | _ => none

end Toolmark.Shell.Condition
