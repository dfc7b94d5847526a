import Toolmark.Regex.CharClass
import Toolmark.Regex.Pattern
import Toolmark.Text.Blank

/-!
# Reading patterns

The grammar of patterns: literals, classes with set operations, groups with flags, repetitions,
anchors and word boundaries. Look-around and back-references are not part of it. Reading gives the
pattern and the depth of its nesting, or nothing when the text is no pattern.
-/

namespace Toolmark.Regex

open Text

/-- The modes that a pattern can switch on and off. -/
structure Modes where
  /-- Letters match both of their cases. -/
  caseless : Bool
  /-- Anchors match at every line. -/
  multiline : Bool
  /-- The dot matches line ends. -/
  dotAll : Bool
  /-- A carriage return and a line feed end a line together. -/
  crlf : Bool
  /-- Classes range over all scripts. -/
  unicode : Bool
  /-- Blanks and comments between the parts of a pattern are passed over. -/
  extended : Bool
deriving DecidableEq, Repr

/-- The modes at the beginning of a pattern. -/
def Modes.initial : Modes where
  caseless := false
  multiline := false
  dotAll := false
  crlf := false
  unicode := true
  extended := false

namespace Reader

/-! ## Blanks -/

/-- The input after blanks and comments. -/
def passBlanks (inComment : Bool) : List Char → List Char
  | [] => []
  | c :: rest =>
      if inComment then passBlanks (c != '\n') rest
      else if isBlank c then passBlanks false rest
      else if c = '#' then passBlanks true rest
      else c :: rest

/-- The input after what the extended mode passes over. -/
def pass (modes : Modes) (input : List Char) : List Char :=
  if modes.extended then passBlanks false input else input

/-- The next character of a class after blanks and one comment sign. -/
def peek (modes : Modes) (input : List Char) : Option Char :=
  if modes.extended then
    match input.dropWhile isBlank with
    | '#' :: rest => (rest.dropWhile isBlank).head?
    | rest => rest.head?
  else input.head?

/-! ## Numbers -/

/-- The number is the code point of a character. -/
def isScalar (code : Nat) : Bool := code < 0xD800 || (0xE000 ≤ code && code ≤ 0x10FFFF)

/-- A hexadecimal numeral of a fixed number of digits. -/
def hexFixed (modes : Modes) : Nat → Nat → List Char → Option (Nat × List Char)
  | 0, value, input => some (value, input)
  | _ + 1, _, [] => none
  | count + 1, value, c :: rest => do
      let digit ← Table.hexDigit? c
      hexFixed modes count (16 * value + digit) (pass modes rest)

/-- A hexadecimal numeral up to a closing brace. -/
def hexBraced (modes : Modes) : Nat → Option Nat → List Char → Option (Nat × List Char)
  | 0, _, _ => none
  | fuel + 1, value, input =>
      match pass modes input with
      | [] => none
      | '\x7d' :: rest => value.map fun value => (value, pass modes rest)
      | c :: rest => do
          let digit ← Table.hexDigit? c
          hexBraced modes fuel (some (16 * value.getD 0 + digit)) rest

/-- The digits of a decimal numeral. -/
def decimalDigits (modes : Modes) : Nat → List Char → List Char → List Char × List Char
  | 0, digits, input => (digits.reverse, input)
  | fuel + 1, digits, input =>
      match input with
      | c :: rest =>
          if c.isDigit then decimalDigits modes fuel (c :: digits) (pass modes rest)
          else (digits.reverse, input)
      | [] => (digits.reverse, input)

/-- A decimal numeral of 32 bits, which blanks may surround. -/
def decimal (modes : Modes) (input : List Char) : Option (Nat × List Char) :=
  let (digits, rest) := decimalDigits modes input.length [] (input.dropWhile isBlank)
  let rest := if rest.head?.any isBlank then pass modes (rest.dropWhile isBlank) else rest
  if digits.isEmpty then none
  else
    let value := digits.foldl (fun value c => 10 * value + (c.toNat - '0'.toNat)) 0
    if value ≤ 0xffffffff then some (value, rest) else none

/-! ## Escapes -/

/-- What a backslash and the characters after it stand for. -/
inductive Atom where
  /-- A character; the flag tells that it was written as one byte of two digits. -/
  | char (c : Char) (byte : Bool)
  /-- A class. -/
  | set (set : CodeSet)
  /-- An assertion. -/
  | assert (assertion : Assertion)

/-- A set that a negation closes, and that holds only ASCII outside the Unicode mode. -/
def closeSet (modes : Modes) (negated : Bool) (set : CodeSet) : Option CodeSet :=
  let set := if modes.caseless then CharClass.fold modes.unicode set else set
  if modes.unicode then
    some (if negated then set.complement else set)
  else
    let set := if negated then set.complementBelow 0xFF else set
    if set.isBelow 0x7F then some set else none

/-- The splitting of a list at the first occurrence of another. -/
def splitAtFirst (mark : List Char) : List Char → Option (List Char × List Char)
  | [] => none
  | c :: rest =>
      if mark.isPrefixOf (c :: rest) then some ([], (c :: rest).drop mark.length)
      else (splitAtFirst mark rest).map fun (front, back) => (c :: front, back)

/-- The class that the text between the braces of a property names, and whether it is negated. -/
def propertyNamed (name : List Char) : Option (Bool × CodeSet) :=
  match splitAtFirst ['!', '='] name with
  | some (property, value) => (CharClass.valueOf? property value).map fun set => (true, set)
  | none =>
      match (splitAtFirst [':'] name).orElse fun _ => splitAtFirst ['='] name with
      | some (property, value) => (CharClass.valueOf? property value).map fun set => (false, set)
      | none => (CharClass.property? name).map fun set => (false, set)

/-- The name of a property up to its closing brace. -/
def propertyName (modes : Modes) : Nat → List Char → List Char → Option (List Char × List Char)
  | 0, _, _ => none
  | fuel + 1, name, input =>
      match pass modes input with
      | [] => none
      | '\x7d' :: rest => some (name.reverse, rest)
      | c :: rest => propertyName modes fuel (c :: name) rest

/-- A class given by a property, after `\p` or `\P`. -/
def property (modes : Modes) (negated : Bool) (input : List Char) :
    Option (Atom × List Char) := do
  let (negatedValue, set, rest) ←
    match pass modes input with
    | [] => none
    | '\x7b' :: rest => do
        let (name, rest) ← propertyName modes (rest.length + 1) [] rest
        let (negatedValue, set) ← propertyNamed name
        pure (negatedValue, set, rest)
    | c :: rest =>
        if c = '\\' then none
        else do
          let (negatedValue, set) ← (CharClass.property? [c]).map fun set => (false, set)
          pure (negatedValue, set, pass modes rest)
  if modes.unicode then
    let set ← closeSet modes (negated != negatedValue) set
    some (.set set, rest)
  else none

/-- A character given by its code point, after `\x`, `\u` or `\U`. -/
def codePoint (modes : Modes) (digits : Nat) (input : List Char) : Option (Atom × List Char) := do
  let (code, byte, rest) ←
    match pass modes input with
    | '\x7b' :: rest => do
        let (code, rest) ← hexBraced modes (rest.length + 1) none rest
        pure (code, false, rest)
    | input => do
        let (code, rest) ← hexFixed modes digits 0 input
        pure (code, digits == 2, rest)
  if isScalar code then some (.char (Char.ofNat code) byte, rest) else none

/-- A class of digits, blanks or word characters. -/
def shorthand (modes : Modes) (negated : Bool) (set : Bool → CodeSet) : Option Atom :=
  if negated then
    if modes.unicode then some (.set (set true).complement) else none
  else some (.set (set modes.unicode))

/-- The name of a word boundary up to its closing brace. -/
def boundaryName (modes : Modes) : Nat → List Char → List Char → Option (List Char × List Char)
  | 0, _, _ => none
  | fuel + 1, name, input =>
      match input with
      | [] => none
      | '\x7d' :: rest => some (name.reverse, rest)
      | c :: rest =>
          if c.isAlpha || c = '-' then boundaryName modes fuel (c :: name) (pass modes rest)
          else none

/-- A word boundary, after `\b`. A brace after it that begins no name is left alone. -/
def boundary (modes : Modes) (words : WordKind) (input : List Char) :
    Option (Atom × List Char) :=
  match input with
  | '\x7b' :: rest =>
      match pass modes rest with
      | [] => none
      | c :: more =>
          if c.isAlpha || c = '-' then do
            let (name, rest) ← boundaryName modes (more.length + 2) [] (c :: more)
            match String.ofList name with
            | "start" => some (.assert (.wordStart words), rest)
            | "end" => some (.assert (.wordEnd words), rest)
            | "start-half" => some (.assert (.wordStartHalf words), rest)
            | "end-half" => some (.assert (.wordEndHalf words), rest)
            | _ => none
          else some (.assert (.boundary words), input)
  | _ => some (.assert (.boundary words), input)

/-- The words of the current mode. -/
def wordKind (modes : Modes) : WordKind := if modes.unicode then .unicode else .ascii

/-- A backslash may stand before the character without changing its meaning. -/
def isEscapable (c : Char) : Bool :=
  c.toNat < 0x80 && !c.isAlphanum && c != '<' && c != '>'

/-- What follows a backslash. -/
def escape (modes : Modes) : List Char → Option (Atom × List Char)
  | [] => none
  | c :: rest =>
      if isEscapable c then some (.char c false, rest)
      else match c with
        | 'x' => codePoint modes 2 rest
        | 'u' => codePoint modes 4 rest
        | 'U' => codePoint modes 8 rest
        | 'p' => property modes false rest
        | 'P' => property modes true rest
        | 'd' => (shorthand modes false CharClass.digit).map fun atom => (atom, rest)
        | 'D' => (shorthand modes true CharClass.digit).map fun atom => (atom, rest)
        | 's' => (shorthand modes false CharClass.space).map fun atom => (atom, rest)
        | 'S' => (shorthand modes true CharClass.space).map fun atom => (atom, rest)
        | 'w' => (shorthand modes false CharClass.word).map fun atom => (atom, rest)
        | 'W' => (shorthand modes true CharClass.word).map fun atom => (atom, rest)
        | 'a' => some (.char '\x07' false, rest)
        | 'f' => some (.char '\x0c' false, rest)
        | 't' => some (.char '\t' false, rest)
        | 'n' => some (.char '\n' false, rest)
        | 'r' => some (.char '\r' false, rest)
        | 'v' => some (.char '\x0b' false, rest)
        | 'A' => some (.assert .textStart, rest)
        | 'z' => some (.assert .textEnd, rest)
        | 'b' => boundary modes (wordKind modes) rest
        | 'B' => some (.assert (.notBoundary (wordKind modes)), rest)
        | '<' => some (.assert (.wordStart (wordKind modes)), rest)
        | '>' => some (.assert (.wordEnd (wordKind modes)), rest)
        | _ => none

/-! ## Classes in brackets -/

/-- The operations between the parts of a class. -/
inductive SetOp where
  /-- The elements of both parts. -/
  | both
  /-- The elements of the first part that are not in the second. -/
  | without
  /-- The elements of exactly one part. -/
  | either
deriving DecidableEq

/-- The value of an operation. -/
def SetOp.apply (modes : Modes) (op : SetOp) (left right : CodeSet) : CodeSet :=
  let fold (set : CodeSet) := if modes.caseless then CharClass.fold modes.unicode set else set
  match op with
  | both => (fold left).inter (fold right)
  | without => (fold left).diff (fold right)
  | either => (fold left).symmDiff (fold right)

/-- The part of a class in brackets that has been read. -/
structure Bracket where
  /-- The class is the complement of what it lists. -/
  negated : Bool
  /-- The operation whose right part is being read, with its left part and its depth. -/
  pending : Option (SetOp × CodeSet × Nat)
  /-- The elements of the part being read. -/
  set : CodeSet
  /-- The number of items of the part being read. -/
  count : Nat
  /-- The greatest depth of these items. -/
  depth : Nat

namespace Bracket

/-- The class with one more item. -/
def add (bracket : Bracket) (set : CodeSet) (depth : Nat) : Bracket :=
  { bracket with
    set := bracket.set.union set
    count := bracket.count + 1
    depth := max bracket.depth depth }

/-- What has been listed so far, and its depth. -/
def value (modes : Modes) (bracket : Bracket) : CodeSet × Nat :=
  let depth := if 2 ≤ bracket.count then bracket.depth + 1 else bracket.depth
  match bracket.pending with
  | none => (bracket.set, depth)
  | some (op, left, leftDepth) => (op.apply modes left bracket.set, max leftDepth depth + 1)

/-- The class with its listed part as the left part of an operation. -/
def operate (modes : Modes) (bracket : Bracket) (op : SetOp) : Bracket :=
  let (left, depth) := bracket.value modes
  { negated := bracket.negated
    pending := some (op, left, depth)
    set := CodeSet.empty
    count := 0
    depth := 0 }

end Bracket

/-- The hyphens at the beginning of a class, which stand for themselves. -/
def hyphens (modes : Modes) : Nat → Bracket → List Char → Bracket × List Char
  | 0, bracket, input => (bracket, input)
  | fuel + 1, bracket, input =>
      match input with
      | '-' :: rest =>
          hyphens modes fuel (bracket.add (CodeSet.singleton '-'.toNat) 0) (pass modes rest)
      | _ => (bracket, input)

/-- The beginning of a class, after its opening bracket. A closing bracket that comes first stands
for itself. -/
def openBracket (modes : Modes) (input : List Char) : Bracket × List Char :=
  let (negated, input) :=
    match pass modes input with
    | '^' :: rest => (true, pass modes rest)
    | input => (false, input)
  let (bracket, input) := hyphens modes input.length ⟨negated, none, CodeSet.empty, 0, 0⟩ input
  match bracket.count, input with
  | 0, ']' :: rest => (bracket.add (CodeSet.singleton ']'.toNat) 0, pass modes rest)
  | _, _ => (bracket, input)

/-- A class of POSIX, after the opening bracket of its own. -/
def posixClass (input : List Char) : Option (Bool × CodeSet × List Char) :=
  match input with
  | ':' :: rest =>
      let (negated, rest) := match rest with
        | '^' :: rest => (true, rest)
        | _ => (false, rest)
      match rest.dropWhile (· != ':') with
      | ':' :: ']' :: after =>
          (CharClass.posix? (String.ofList (rest.takeWhile (· != ':')))).map
            fun set => (negated, set, after)
      | _ => none
  | _ => none

/-- A character or an escape within a class. -/
def classAtom (modes : Modes) : List Char → Option (Atom × List Char)
  | [] => none
  | '\\' :: rest => escape modes rest
  | c :: rest => some (.char c false, rest)

/-- The code point that an atom lists within a class. -/
def classCode (modes : Modes) : Atom → Option Nat
  | .char c byte => if modes.unicode || byte || c.toNat < 0x80 then some c.toNat else none
  | _ => none

/-- The characters that an atom lists within a class. -/
def classSet (modes : Modes) : Atom → Option CodeSet
  | .set set => some set
  | .assert _ => none
  | atom => (classCode modes atom).map CodeSet.singleton

/-- A character, an escape or a range within a class. -/
def classRange (modes : Modes) (input : List Char) : Option (CodeSet × List Char) := do
  let (first, rest) ← classAtom modes input
  match pass modes rest with
  | [] => none
  | '-' :: rest =>
      if peek modes rest == some ']' || peek modes rest == some '-' then
        let set ← classSet modes first
        some (set, '-' :: rest)
      else
        let (last, rest) ← classAtom modes (pass modes rest)
        let first ← classCode modes first
        let last ← classCode modes last
        if first ≤ last then some (CodeSet.range first last, rest) else none
  | rest =>
      let set ← classSet modes first
      some (set, rest)

/-- The rest of a class, with its depth. -/
def classItems (modes : Modes) : Nat → Bracket → List Char → Option (CodeSet × Nat × List Char)
  | 0, _, _ => none
  | fuel + 1, bracket, input =>
      match pass modes input with
      | [] => none
      | ']' :: rest => do
          let (set, depth) := bracket.value modes
          let set ← closeSet modes bracket.negated set
          some (set, depth + 1, rest)
      | '[' :: rest =>
          match posixClass rest with
          | some (negated, set, rest) => do
              let set ← closeSet modes negated set
              classItems modes fuel (bracket.add set 0) rest
          | none => do
              let (inner, rest) := openBracket modes rest
              let (set, depth, rest) ← classItems modes fuel inner rest
              classItems modes fuel (bracket.add set depth) rest
      | '&' :: '&' :: rest => classItems modes fuel (bracket.operate modes .both) rest
      | '-' :: '-' :: rest => classItems modes fuel (bracket.operate modes .without) rest
      | '~' :: '~' :: rest => classItems modes fuel (bracket.operate modes .either) rest
      | input => do
          let (set, rest) ← classRange modes input
          classItems modes fuel (bracket.add set 0) rest

/-! ## Groups and repetitions -/

/-- One part of a sequence. -/
structure Piece where
  /-- The pattern. -/
  pattern : Pattern
  /-- The depth of its nesting. -/
  depth : Nat
  /-- A repetition may follow it; none may follow a change of modes. -/
  isRepeatable : Bool

/-- The pieces of a sequence, last first, as one pattern. -/
def sequence (pieces : List Piece) : Pattern × Nat :=
  let depth := pieces.foldl (fun depth piece => max depth piece.depth) 0
  match pieces with
  | [] => (.empty, 0)
  | [piece] => (piece.pattern, depth)
  | last :: front => (front.foldl (fun rest piece => .seq piece.pattern rest) last.pattern, depth + 1)

/-- The branches of an alternation, last first, as one pattern. -/
def alternation (branches : List (Pattern × Nat)) : Pattern × Nat :=
  match branches with
  | [] => (.empty, 0)
  | [branch] => branch
  | last :: front =>
      (front.foldl (fun rest branch => .alt branch.1 rest) last.1,
        branches.foldl (fun depth branch => max depth branch.2) 0 + 1)

/-- The pattern for one character. -/
def literal (modes : Modes) (c : Char) (byte : Bool) : Option Pattern :=
  if !modes.unicode && byte && 0x80 ≤ c.toNat then none
  else if modes.caseless && (modes.unicode || c.toNat < 0x80) then
    let set := CharClass.fold modes.unicode (CodeSet.singleton c.toNat)
    some (if set = CodeSet.singleton c.toNat then .literal c else .oneOf set)
  else some (.literal c)

/-- The pattern for an escape. -/
def atomPattern (modes : Modes) : Atom → Option Pattern
  | .char c byte => literal modes c byte
  | .set set => some (.oneOf set)
  | .assert assertion => some (.assert assertion)

/-- The pattern for the dot. -/
def dot (modes : Modes) : Option Pattern :=
  if !modes.unicode then none
  else if modes.dotAll then some (.oneOf CodeSet.all)
  else if modes.crlf then
    some (.oneOf (CodeSet.union (CodeSet.singleton 0xA) (CodeSet.singleton 0xD)).complement)
  else some (.oneOf (CodeSet.singleton 0xA).complement)

/-- The anchor at the beginning of a line or of the text. -/
def startAnchor (modes : Modes) : Assertion :=
  if modes.multiline then if modes.crlf then .lineStartCrlf else .lineStart else .textStart

/-- The anchor at the end of a line or of the text. -/
def endAnchor (modes : Modes) : Assertion :=
  if modes.multiline then if modes.crlf then .lineEndCrlf else .lineEnd else .textEnd

/-- The modes after one flag. -/
def flag (modes : Modes) (value : Bool) : Char → Option Modes
  | 'i' => some { modes with caseless := value }
  | 'm' => some { modes with multiline := value }
  | 's' => some { modes with dotAll := value }
  | 'R' => some { modes with crlf := value }
  | 'u' => some { modes with unicode := value }
  | 'x' => some { modes with extended := value }
  | 'U' => some modes
  | _ => none

/-- The flags of a group, after its question mark: the modes that they set, and the rest of the input
from the colon or the parenthesis that ends them. No flag and no hyphen occurs twice, and a flag
follows the hyphen. -/
def flags (seen : List Char) (modes : Modes) : List Char → Option (List Char × Modes × List Char)
  | [] => none
  | c :: rest =>
      if c = ':' || c = ')' then
        if seen.head? == some '-' then none else some (seen, modes, c :: rest)
      else if seen.contains c then none
      else if c = '-' then flags (c :: seen) modes rest
      else do
        let modes ← flag modes (!seen.contains '-') c
        flags (c :: seen) modes rest

/-- The letters of all scripts. -/
def letterSet : CodeSet := Table.set Property.alphabetic

/-- The letters and numbers of all scripts. -/
def alphanumericSet : CodeSet := letterSet.union (Category.set "N")

/-- A character that a name may begin or go on with. -/
def isNameChar (isFirst : Bool) (c : Char) : Bool :=
  c = '_' || if isFirst then letterSet.contains c
    else c = '.' || c = '[' || c = ']' || alphanumericSet.contains c

/-- The name of a group up to its closing angle bracket. -/
def groupName (input : List Char) : Option (List Char × List Char) :=
  match input.takeWhile (· != '>'), input.dropWhile (· != '>') with
  | first :: more, '>' :: rest =>
      if isNameChar true first && more.all (isNameChar false) then some (first :: more, rest)
      else none
  | _, _ => none

/-- The beginning of a group. -/
inductive Opening where
  /-- A change of modes up to the end of the enclosing group. -/
  | modes (modes : Modes)
  /-- A group without number, with its modes. -/
  | plain (modes : Modes)
  /-- A group with a number and possibly a name. -/
  | capture (name : Option (List Char))

/-- The beginning of a group, after its opening parenthesis. -/
def opening (modes : Modes) (input : List Char) : Option (Opening × List Char) :=
  match pass modes input with
  | '?' :: '=' :: _ => none
  | '?' :: '!' :: _ => none
  | '?' :: '<' :: '=' :: _ => none
  | '?' :: '<' :: '!' :: _ => none
  | '?' :: 'P' :: '<' :: rest => (groupName rest).map fun (name, rest) => (.capture (some name), rest)
  | '?' :: '<' :: rest => (groupName rest).map fun (name, rest) => (.capture (some name), rest)
  | '?' :: rest => do
      let (seen, inner, rest) ← flags [] modes rest
      match rest with
      | ')' :: rest => if seen.isEmpty then none else some (.modes inner, rest)
      | ':' :: rest => some (.plain inner, rest)
      | _ => none
  | rest => some (.capture none, rest)

/-- The bounds of a counted repetition, after its opening brace. -/
def bounds (modes : Modes) (input : List Char) : Option (Nat × Option Nat × List Char) := do
  let (least, rest) ← decimal modes (pass modes input)
  match rest with
  | '\x7d' :: rest => some (least, some least, pass modes rest)
  | ',' :: rest =>
      match pass modes rest with
      | '\x7d' :: rest => some (least, none, pass modes rest)
      | rest =>
          let (most, rest) ← decimal modes rest
          match rest with
          | '\x7d' :: rest => if least ≤ most then some (least, some most, pass modes rest) else none
          | _ => none
  | _ => none

/-- The input after the sign of a reluctant repetition. -/
def passReluctant : List Char → List Char
  | '?' :: rest => rest
  | input => input

/-- The pieces with the last one repeated. -/
def repeatLast (least : Nat) (most : Option Nat) : List Piece → Option (List Piece)
  | [] => none
  | piece :: front =>
      if piece.isRepeatable then
        some (⟨.repeated piece.pattern least most, piece.depth + 1, true⟩ :: front)
      else none

/-- What has been read of a pattern, and what remains. -/
structure Progress where
  /-- The pattern read. -/
  pattern : Pattern
  /-- The depth of its nesting. -/
  depth : Nat
  /-- The modes at its end. -/
  modes : Modes
  /-- The names of groups so far. -/
  names : List (List Char)
  /-- The input that remains. -/
  rest : List Char

mutual

/-- The branches of a group or of the whole pattern, up to a closing parenthesis or the end. -/
def alternatives : Nat → List (Pattern × Nat) → Modes → List (List Char) → List Char →
    Option Progress
  | 0, _, _, _, _ => none
  | fuel + 1, branches, modes, names, input => do
      let branch ← items fuel [] modes names input
      let branches := (branch.pattern, branch.depth) :: branches
      match branch.rest with
      | '|' :: rest => alternatives fuel branches branch.modes branch.names rest
      | _ =>
          let (pattern, depth) := alternation branches
          some { branch with pattern := pattern, depth := depth }

/-- The pieces of a branch, up to a bar, a closing parenthesis or the end. -/
def items : Nat → List Piece → Modes → List (List Char) → List Char → Option Progress
  | 0, _, _, _, _ => none
  | fuel + 1, pieces, modes, names, input =>
      let finish (rest : List Char) : Option Progress :=
        let (pattern, depth) := sequence pieces
        some ⟨pattern, depth, modes, names, rest⟩
      match pass modes input with
      | [] => finish []
      | '|' :: rest => finish ('|' :: rest)
      | ')' :: rest => finish (')' :: rest)
      | '(' :: rest => do
          let (opening, rest) ← opening modes rest
          match opening with
          | .modes modes => items fuel (⟨.empty, 0, false⟩ :: pieces) modes names rest
          | .plain inner =>
              let body ← alternatives fuel [] inner names rest
              match body.rest with
              | ')' :: rest =>
                  items fuel (⟨body.pattern, body.depth + 1, true⟩ :: pieces) modes body.names rest
              | _ => none
          | .capture name =>
              let names ← match name with
                | some name => if names.contains name then none else some (name :: names)
                | none => some names
              let body ← alternatives fuel [] modes names rest
              match body.rest with
              | ')' :: rest =>
                  items fuel (⟨.capture body.pattern, body.depth + 1, true⟩ :: pieces) modes
                    body.names rest
              | _ => none
      | '[' :: rest => do
          let (bracket, rest) := openBracket modes rest
          let (set, depth, rest) ← classItems modes (rest.length + 1) bracket rest
          items fuel (⟨.oneOf set, depth, true⟩ :: pieces) modes names rest
      | '?' :: rest => do
          let pieces ← repeatLast 0 (some 1) pieces
          items fuel pieces modes names (passReluctant rest)
      | '*' :: rest => do
          let pieces ← repeatLast 0 none pieces
          items fuel pieces modes names (passReluctant rest)
      | '+' :: rest => do
          let pieces ← repeatLast 1 none pieces
          items fuel pieces modes names (passReluctant rest)
      | '\x7b' :: rest => do
          let (least, most, rest) ← bounds modes rest
          let pieces ← repeatLast least most pieces
          items fuel pieces modes names (passReluctant rest)
      | '.' :: rest => do
          let pattern ← dot modes
          items fuel (⟨pattern, 0, true⟩ :: pieces) modes names rest
      | '^' :: rest =>
          items fuel (⟨.assert (startAnchor modes), 0, true⟩ :: pieces) modes names rest
      | '$' :: rest =>
          items fuel (⟨.assert (endAnchor modes), 0, true⟩ :: pieces) modes names rest
      | '\\' :: rest => do
          let (atom, rest) ← escape modes rest
          let pattern ← atomPattern modes atom
          items fuel (⟨pattern, 0, true⟩ :: pieces) modes names rest
      | c :: rest => do
          let pattern ← literal modes c false
          items fuel (⟨pattern, 0, true⟩ :: pieces) modes names rest

end

end Reader

/-- The pattern that a text is, with the depth of its nesting. -/
def Pattern.read? (text : String) : Option (Pattern × Nat) := do
  let input := text.toList
  let whole ← Reader.alternatives (2 * input.length + 4) [] Modes.initial [] input
  if whole.rest.isEmpty then some (whole.pattern, whole.depth) else none

end Toolmark.Regex
