import Toolmark.Shell.Script

/-!
# Arithmetic of the shell

Expressions over signed numbers of 64 bits, with the operators and precedences of C.
-/

namespace Toolmark.Shell.Arithmetic

/-- A number as a signed number of 64 bits. -/
def wrap (value : Int) : Int := Int.bmod value 0x10000000000000000

/-- The number of a truth value. -/
def ofFlag (flag : Bool) : Int := if flag then 1 else 0

/-- The levels of binary operators, from the weakest; within a level the longer names come first. -/
def levels : List (List String) :=
  [["||"], ["&&"], ["|"], ["^"], ["&"], ["==", "!="], ["<=", ">=", "<", ">"], ["<<", ">>"],
    ["+", "-"], ["*", "/", "%"]]

/-- The value of a binary operator, if it has one. -/
def combine? (operator : String) (left right : Int) : Option Int :=
  match operator with
  | "||" => some (ofFlag (left ≠ 0 || right ≠ 0))
  | "&&" => some (ofFlag (left ≠ 0 && right ≠ 0))
  | "|" => some ((Int64.ofInt left ||| Int64.ofInt right).toInt)
  | "^" => some ((Int64.ofInt left ^^^ Int64.ofInt right).toInt)
  | "&" => some ((Int64.ofInt left &&& Int64.ofInt right).toInt)
  | "==" => some (ofFlag (left = right))
  | "!=" => some (ofFlag (left ≠ right))
  | "<=" => some (ofFlag (left ≤ right))
  | ">=" => some (ofFlag (right ≤ left))
  | "<" => some (ofFlag (left < right))
  | ">" => some (ofFlag (right < left))
  | "<<" => some (wrap (left * ((1 <<< (right % 64).toNat : Nat) : Int)))
  | ">>" => some (left >>> (right % 64).toNat)
  | "+" => some (wrap (left + right))
  | "-" => some (wrap (left - right))
  | "*" => some (wrap (left * right))
  | "/" => if right = 0 then none else some (wrap (Int.tdiv left right))
  | "%" => if right = 0 then none else some (Int.tmod left right)
  | _ => none

/-- The value of a digit. -/
def digitValue (c : Char) : Nat :=
  if c.isDigit then c.toNat - '0'.toNat else c.toLower.toNat - 'a'.toNat + 10

/-- The value of digits in a base, if all of them belong to it. -/
def ofDigits? (base : Nat) (digits : Octets) : Option Int :=
  if digits.isEmpty || digits.any fun c => base ≤ digitValue c then none
  else some (Int.ofNat (digits.foldl (fun value c => base * value + digitValue c) 0))

/-- The number that a text of letters and digits stands for. -/
def numeral? (text : Octets) : Option Int :=
  match text with
  | '0' :: 'x' :: digits => ofDigits? 16 digits
  | '0' :: 'X' :: digits => ofDigits? 16 digits
  | '0' :: c :: digits => ofDigits? 8 (c :: digits)
  | digits => ofDigits? 10 digits

/-- The text behind blanks. -/
def skipBlanks (text : Octets) : Octets := text.dropWhile fun c => [' ', '\t', '\n'].contains c

/-- The operator of a level at the beginning of a text, and what follows it. -/
def operator? (names : List String) (text : Octets) : Option (String × Octets) :=
  (names.find? fun name => name.toList.isPrefixOf text).bind fun name =>
    let rest := text.drop name.length
    match name, rest with
    | "|", '|' :: _ => none
    | "&", '&' :: _ => none
    | "<", '<' :: _ => none
    | ">", '>' :: _ => none
    | _, rest => some (name, rest)

mutual

/-- The value of an expression of a level at the beginning of a text, and what follows it. -/
def binary (bound : Nat) (lookup? : Octets → Option Int) (levels : List (List String))
    (text : Octets) : Option (Int × Octets) :=
  match bound with
  | 0 => none
  | bound + 1 =>
      match levels with
      | [] => unary bound lookup? text
      | names :: tighter => do
          let (first, rest) ← binary bound lookup? tighter text
          more bound lookup? names tighter first rest

/-- The value of an expression whose first operands have been read, and what follows it. -/
def more (bound : Nat) (lookup? : Octets → Option Int) (names : List String)
    (tighter : List (List String)) (first : Int) (text : Octets) : Option (Int × Octets) :=
  match bound with
  | 0 => none
  | bound + 1 =>
      match operator? names (skipBlanks text) with
      | none => some (first, text)
      | some (name, rest) => do
          let (second, rest) ← binary bound lookup? tighter rest
          let value ← combine? name first second
          more bound lookup? names tighter value rest

/-- The value of an operand at the beginning of a text, and what follows it. -/
def unary (bound : Nat) (lookup? : Octets → Option Int) (text : Octets) :
    Option (Int × Octets) :=
  match bound with
  | 0 => none
  | bound + 1 =>
      match skipBlanks text with
      | '-' :: rest => (unary bound lookup? rest).map fun (value, rest) => (wrap (-value), rest)
      | '+' :: rest => unary bound lookup? rest
      | '!' :: rest =>
          (unary bound lookup? rest).map fun (value, rest) => (ofFlag (value = 0), rest)
      | '~' :: rest =>
          (unary bound lookup? rest).map fun (value, rest) => (-value - 1, rest)
      | '(' :: rest => do
          let (value, rest) ← binary bound lookup? levels rest
          match skipBlanks rest with
          | ')' :: rest => some (value, rest)
          | _ => none
      | text =>
          let isPart (c : Char) : Bool := c.isAlphanum || c == '_'
          let word := text.takeWhile isPart
          let rest := text.drop word.length
          match word with
          | [] => none
          | c :: _ =>
              if c.isDigit then (numeral? word).map fun value => (value, rest)
              else (lookup? word).map fun value => (value, rest)

end

/-- The value of the number in the text of a variable; an empty text counts as zero. -/
def ofText? (text : Octets) : Option Int :=
  match skipBlanks text with
  | [] => some 0
  | '-' :: digits => (numeral? digits).map fun value => -value
  | '+' :: digits => numeral? digits
  | digits => numeral? digits

/-- The value of an expression, given the texts of variables. -/
def value? (lookup : Octets → Octets) (text : Octets) : Option Int := do
  if (skipBlanks text).isEmpty then some 0
  else
    let (value, rest) ← binary (16 * text.length + 64) (fun name => ofText? (lookup name))
      levels text
    if (skipBlanks rest).isEmpty then some value else none

end Toolmark.Shell.Arithmetic
