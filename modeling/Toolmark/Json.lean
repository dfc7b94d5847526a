/-!
# JSON values

The values of JSON and the two forms in which they are written. In the indented form members and
items stand on lines of their own, two blanks deeper than what encloses them, and empty arrays and
objects take no line break. The other form has no blanks between the parts of a value.
-/

namespace Toolmark

/-- A number of a JSON text. -/
inductive Number where
  /-- A natural number in plain decimal digits. -/
  | natural (value : Nat)
  /-- Any other number, as it was written. -/
  | other (text : String)
deriving DecidableEq, Repr

/-- A JSON value. A string, and the name of a member, is `none` when its escapes name half of a
surrogate pair without the other half, so that it has no text. -/
inductive Json where
  /-- The value `null`. -/
  | null
  /-- A truth value. -/
  | bool (value : Bool)
  /-- A number. -/
  | number (value : Number)
  /-- A string. -/
  | string (text : Option String)
  /-- A list of values. -/
  | array (items : List Json)
  /-- Named values, in the order of the text. -/
  | object (members : List (Option String × Json))
deriving Repr, Inhabited

namespace Json

/-- The value of a text. -/
def text (value : String) : Json := string (some value)

/-- The value of a natural number. -/
def natural (value : Nat) : Json := number (.natural value)

/-- The object with given members. -/
def record (members : List (String × Json)) : Json :=
  object (members.map fun (name, value) => (some name, value))

/-- The value, or `null` if there is none. -/
def optional (value : Option Json) : Json := value.getD null

/-! ## Text -/

/-- The lower-case hexadecimal digit of a number below sixteen. -/
def hexDigit (value : Nat) : Char :=
  if value < 10 then Char.ofNat ('0'.toNat + value) else Char.ofNat ('a'.toNat + (value - 10))

/-- The form of a character in a string. -/
def escapeChar (c : Char) : List Char :=
  if c = '"' then ['\\', '"']
  else if c = '\\' then ['\\', '\\']
  else if c = '\n' then ['\\', 'n']
  else if c = '\r' then ['\\', 'r']
  else if c = '\t' then ['\\', 't']
  else if c = '\x08' then ['\\', 'b']
  else if c = '\x0c' then ['\\', 'f']
  else if c.toNat < 0x20 then
    ['\\', 'u', '0', '0', hexDigit (c.toNat / 16), hexDigit (c.toNat % 16)]
  else [c]

/-- The form of a string. -/
def quoteText (text : String) : List Char := '"' :: (text.toList.flatMap escapeChar ++ ['"'])

/-- The form of a number. -/
def numeral : Number → List Char
  | .natural value => Nat.toDigits 10 value
  | .other text => text.toList

/-- The blanks at the beginning of a line. -/
def indent (level : Nat) : List Char := List.replicate (2 * level) ' '

mutual

/-- The indented form of a value whose first line stands at a level. -/
def pretty (level : Nat) : Json → List Char
  | null => ['n', 'u', 'l', 'l']
  | bool true => ['t', 'r', 'u', 'e']
  | bool false => ['f', 'a', 'l', 's', 'e']
  | number value => numeral value
  | string text => quoteText (text.getD "")
  | array items =>
      if items.isEmpty then ['[', ']']
      else ['[', '\n'] ++ prettyItems (level + 1) items ++ ['\n'] ++ indent level ++ [']']
  | object members =>
      if members.isEmpty then ['\x7b', '\x7d']
      else
        ['\x7b', '\n'] ++ prettyMembers (level + 1) members ++ ['\n'] ++ indent level ++ ['\x7d']

/-- The items of an array, separated by commas. -/
def prettyItems (level : Nat) : List Json → List Char
  | [] => []
  | item :: rest =>
      indent level ++ pretty level item ++
        (if rest.isEmpty then [] else [',', '\n'] ++ prettyItems level rest)

/-- The members of an object, separated by commas. -/
def prettyMembers (level : Nat) : List (Option String × Json) → List Char
  | [] => []
  | (name, value) :: rest =>
      indent level ++ quoteText (name.getD "") ++ [':', ' '] ++ pretty level value ++
        (if rest.isEmpty then [] else [',', '\n'] ++ prettyMembers level rest)

end

/-- The indented text of a value. -/
def prettyText (value : Json) : String := String.ofList (value.pretty 0)

mutual

/-- The form of a value without blanks. Only lists and objects have another form than indented. -/
def compact : Json → List Char
  | array items => '[' :: (compactItems items ++ [']'])
  | object members => '\x7b' :: (compactMembers members ++ ['\x7d'])
  | value => pretty 0 value

/-- The items of an array, separated by commas. -/
def compactItems : List Json → List Char
  | [] => []
  | item :: rest => compact item ++ (if rest.isEmpty then [] else ',' :: compactItems rest)

/-- The members of an object, separated by commas. -/
def compactMembers : List (Option String × Json) → List Char
  | [] => []
  | (name, value) :: rest =>
      quoteText (name.getD "") ++ ':' :: compact value ++
        (if rest.isEmpty then [] else ',' :: compactMembers rest)

end

/-- The text of a value without blanks. -/
def compactText (value : Json) : String := String.ofList value.compact

end Json

end Toolmark
