import Toolmark.Json

/-!
# Reading JSON

The strict grammar of JSON: one value with blanks around it and nothing else. A reader takes the
characters at the beginning of its input and returns what they stand for with the input that
remains.
-/

namespace Toolmark.Json

namespace Reader

/-- The blanks of JSON. -/
def isBlank (c : Char) : Bool := c = ' ' || c = '\n' || c = '\t' || c = '\r'

/-- The input after blanks. -/
def pass (input : List Char) : List Char := input.dropWhile isBlank

/-- The value of a hexadecimal digit. -/
def hexValue? (c : Char) : Option Nat :=
  if '0' ≤ c && c ≤ '9' then some (c.toNat - '0'.toNat)
  else if 'a' ≤ c && c ≤ 'f' then some (c.toNat - 'a'.toNat + 10)
  else if 'A' ≤ c && c ≤ 'F' then some (c.toNat - 'A'.toNat + 10)
  else none

/-- The character that a letter after a backslash stands for. -/
def escaped? (c : Char) : Option Char :=
  match c with
  | '"' => some '"'
  | '\\' => some '\\'
  | '/' => some '/'
  | 'b' => some '\x08'
  | 'f' => some '\x0c'
  | 'n' => some '\n'
  | 'r' => some '\r'
  | 't' => some '\t'
  | _ => none

/-- The code points of a string up to its closing quotation mark, halves of surrogate pairs apart. -/
def codes : List Char → Option (List Nat × List Char)
  | [] => none
  | '"' :: rest => some ([], rest)
  | '\\' :: 'u' :: a :: b :: c :: d :: rest => do
      let a ← hexValue? a
      let b ← hexValue? b
      let c ← hexValue? c
      let d ← hexValue? d
      let (more, rest) ← codes rest
      some ((((a * 16 + b) * 16 + c) * 16 + d) :: more, rest)
  | '\\' :: c :: rest => do
      let c ← escaped? c
      let (more, rest) ← codes rest
      some (c.toNat :: more, rest)
  | c :: rest =>
      if c = '\\' || c.toNat < 0x20 then none
      else do
        let (more, rest) ← codes rest
        some (c.toNat :: more, rest)

/-- The characters of code points, if every half of a surrogate pair has its partner. -/
def characters : List Nat → Option (List Char)
  | [] => some []
  | high :: rest =>
      if 0xD800 ≤ high && high < 0xDC00 then
        match rest with
        | low :: rest =>
            if 0xDC00 ≤ low && low < 0xE000 then
              (characters rest).map
                (Char.ofNat (0x10000 + (high - 0xD800) * 1024 + (low - 0xDC00)) :: ·)
            else none
        | [] => none
      else if 0xDC00 ≤ high && high < 0xE000 then none
      else (characters rest).map (Char.ofNat high :: ·)

/-- A string, after its opening quotation mark. -/
def stringBody (input : List Char) : Option (Option String × List Char) :=
  (codes input).map fun (codes, rest) => ((characters codes).map String.ofList, rest)

/-- A nonempty run of digits. -/
def digits (input : List Char) : Option (List Char × List Char) :=
  let run := input.takeWhile Char.isDigit
  if run.isEmpty then none else some (run, input.dropWhile Char.isDigit)

/-- The digits after a decimal point, with the point. -/
def fraction (input : List Char) : Option (List Char × List Char) :=
  match input with
  | '.' :: rest => (digits rest).map fun (run, rest) => ('.' :: run, rest)
  | _ => some ([], input)

/-- An exponent with its letter and sign. -/
def exponent (input : List Char) : Option (List Char × List Char) :=
  match input with
  | e :: rest =>
      if e = 'e' || e = 'E' then
        match rest with
        | sign :: rest =>
            if sign = '+' || sign = '-' then
              (digits rest).map fun (run, rest) => (e :: sign :: run, rest)
            else (digits (sign :: rest)).map fun (run, rest) => (e :: run, rest)
        | [] => none
      else some ([], input)
  | [] => some ([], input)

/-- The value of decimal digits. -/
def decimalValue (run : List Char) : Nat :=
  run.foldl (fun value c => 10 * value + (c.toNat - '0'.toNat)) 0

/-- A number. Its whole part has no needless zero. -/
def numeral (input : List Char) : Option (Number × List Char) := do
  let (sign, unsigned) := match input with
    | '-' :: rest => (['-'], rest)
    | _ => ([], input)
  let (whole, rest) ← digits unsigned
  if whole.head? == some '0' && 1 < whole.length then none
  else
    let (decimals, rest) ← fraction rest
    let (scale, rest) ← exponent rest
    if sign.isEmpty && decimals.isEmpty && scale.isEmpty then
      some (.natural (decimalValue whole), rest)
    else some (.other (String.ofList (sign ++ whole ++ decimals ++ scale)), rest)

mutual

/-- A value, after blanks. -/
def value : Nat → List Char → Option (Json × List Char)
  | 0, _ => none
  | fuel + 1, input =>
      match pass input with
      | 'n' :: 'u' :: 'l' :: 'l' :: rest => some (null, rest)
      | 't' :: 'r' :: 'u' :: 'e' :: rest => some (bool true, rest)
      | 'f' :: 'a' :: 'l' :: 's' :: 'e' :: rest => some (bool false, rest)
      | '"' :: rest => (stringBody rest).map fun (text, rest) => (string text, rest)
      | '[' :: rest =>
          match pass rest with
          | ']' :: rest => some (array [], rest)
          | rest => (items fuel rest).map fun (items, rest) => (array items, rest)
      | '\x7b' :: rest =>
          match pass rest with
          | '\x7d' :: rest => some (object [], rest)
          | rest => (members fuel rest).map fun (members, rest) => (object members, rest)
      | rest => (numeral rest).map fun (value, rest) => (number value, rest)

/-- The items of an array up to its closing bracket. -/
def items : Nat → List Char → Option (List Json × List Char)
  | 0, _ => none
  | fuel + 1, input => do
      let (item, rest) ← value fuel input
      match pass rest with
      | ',' :: rest =>
          let (more, rest) ← items fuel rest
          some (item :: more, rest)
      | ']' :: rest => some ([item], rest)
      | _ => none

/-- The members of an object up to its closing brace. -/
def members : Nat → List Char → Option (List (Option String × Json) × List Char)
  | 0, _ => none
  | fuel + 1, input =>
      match pass input with
      | '"' :: rest => do
          let (name, rest) ← stringBody rest
          match pass rest with
          | ':' :: rest =>
              let (item, rest) ← value fuel rest
              match pass rest with
              | ',' :: rest =>
                  let (more, rest) ← members fuel rest
                  some ((name, item) :: more, rest)
              | '\x7d' :: rest => some ([(name, item)], rest)
              | _ => none
          | _ => none
      | _ => none

end

end Reader

/-- The value that a text is, if it is one. -/
def read? (text : String) : Option Json := do
  let input := text.toList
  let (value, rest) ← Reader.value (2 * input.length + 2) input
  if (Reader.pass rest).isEmpty then some value else none

end Toolmark.Json
