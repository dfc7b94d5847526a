import Toolmark.Text.Table
import Toolmark.Yaml.Cursor

/-!
# Scalars

The four notations of a scalar: plain, in single or double quotation marks, and in a block that keeps
or folds its lines. A reader starts behind the character that announces the notation and returns the
text of the scalar with the position behind it.
-/

namespace Toolmark.Yaml

/-- The notation of a scalar. -/
inductive ScalarStyle where
  /-- Without any marks. -/
  | plain
  /-- In quotation marks. -/
  | quoted
  /-- In a block that keeps its lines. -/
  | literal
  /-- In a block that folds its lines. -/
  | folded
deriving DecidableEq, Repr

namespace Scalar

/-! ## Folding -/

/-- What lies between two words of a scalar. -/
structure Gap where
  /-- The blanks before the first break. -/
  blanks : List Char
  /-- The first break, if a break has been passed. -/
  firstBreak : Option (List Char)
  /-- The breaks after the first. -/
  moreBreaks : List Char

namespace Gap

/-- The gap between adjacent characters. -/
def none : Gap := ⟨[], Option.none, []⟩

/-- The text that a gap leaves: one break becomes a space, and of more breaks the first is dropped. -/
def text (gap : Gap) : List Char :=
  match gap.firstBreak with
  | Option.none => gap.blanks
  | some first =>
      if first.head? == some '\n' then
        if gap.moreBreaks.isEmpty then [' '] else gap.moreBreaks
      else first ++ gap.moreBreaks

end Gap

/-- The blanks and breaks at a position. Within a plain scalar a tab must not stand left of a given
column behind a break. -/
def readGap (tabColumn : Nat) : Nat → Gap → Cursor → Option (Gap × Cursor)
  | 0, _, _ => none
  | fuel + 1, gap, cursor =>
      match cursor.next with
      | none => some (gap, cursor)
      | some c =>
          if isBlank c then
            match gap.firstBreak with
            | some _ =>
                if c = '\t' && cursor.column < tabColumn then none
                else readGap tabColumn fuel gap (cursor.skip 1)
            | none =>
                readGap tabColumn fuel { gap with blanks := gap.blanks ++ [c] } (cursor.skip 1)
          else if isBreak c then
            let (lineBreak, cursor) := cursor.takeBreak
            match gap.firstBreak with
            | some _ =>
                readGap tabColumn fuel
                  { gap with moreBreaks := gap.moreBreaks ++ lineBreak } cursor
            | none =>
                readGap tabColumn fuel { gap with blanks := [], firstBreak := some lineBreak } cursor
          else some (gap, cursor)

/-! ## Quotation marks -/

/-- A character given by a number of hexadecimal digits. -/
def readCode (digits : Nat) (cursor : Cursor) : Option (Char × Cursor) := do
  let run := cursor.rest.take digits
  let values ← run.mapM Text.Table.hexDigit?
  let code := values.foldl (fun value digit => 16 * value + digit) 0
  if run.length < digits || (0xD800 ≤ code && code ≤ 0xDFFF) || 0x10FFFF < code then none
  else some (Char.ofNat code, cursor.skip digits)

/-- The character that an escape stands for, behind its backslash. -/
def readEscape (cursor : Cursor) : Option (Char × Cursor) := do
  let c ← cursor.next
  let rest := cursor.skip 1
  match c with
  | '0' => some ('\x00', rest)
  | 'a' => some ('\x07', rest)
  | 'b' => some ('\x08', rest)
  | 't' => some ('\t', rest)
  | '\t' => some ('\t', rest)
  | 'n' => some ('\n', rest)
  | 'v' => some ('\x0b', rest)
  | 'f' => some ('\x0c', rest)
  | 'r' => some ('\r', rest)
  | 'e' => some ('\x1b', rest)
  | ' ' => some (' ', rest)
  | '"' => some ('"', rest)
  | '/' => some ('/', rest)
  | '\\' => some ('\\', rest)
  | 'N' => some ('\u0085', rest)
  | '_' => some ('\u00A0', rest)
  | 'L' => some ('\u2028', rest)
  | 'P' => some ('\u2029', rest)
  | 'x' => readCode 2 rest
  | 'u' => readCode 4 rest
  | 'U' => readCode 8 rest
  | _ => none

/-- The rest of a quoted scalar; `read` holds the characters so far, last first. -/
def readQuoted (double : Bool) : Nat → List Char → Cursor → Option (String × Cursor)
  | 0, _, _ => none
  | fuel + 1, read, cursor =>
      if cursor.isAtDocumentMark then none
      else
        match cursor.rest with
        | [] => none
        | '\'' :: rest =>
            if double then readQuoted double fuel ('\'' :: read) (cursor.skip 1)
            else if rest.head? == some '\'' then
              readQuoted double fuel ('\'' :: read) (cursor.skip 2)
            else some (String.ofList read.reverse, cursor.skip 1)
        | '"' :: _ =>
            if double then some (String.ofList read.reverse, cursor.skip 1)
            else readQuoted double fuel ('"' :: read) (cursor.skip 1)
        | c :: _ =>
            if c = '\\' && double then
              let behind := cursor.skip 1
              if behind.nextIs isBreak then do
                let (gap, cursor) ← readGap 0 (fuel + 1) ⟨[], some [], []⟩ behind.skipBreak
                readQuoted double fuel (gap.text.reverse ++ read) cursor
              else do
                let (c, cursor) ← readEscape behind
                readQuoted double fuel (c :: read) cursor
            else if isBlank c || isBreak c then do
              let (gap, cursor) ← readGap 0 (fuel + 1) Gap.none cursor
              readQuoted double fuel (gap.text.reverse ++ read) cursor
            else readQuoted double fuel (c :: read) (cursor.skip 1)

/-! ## Plain scalars -/

/-- A character that separates the parts of a flow collection. -/
def isFlowIndicator (c : Char) : Bool := c = ',' || c = '[' || c = ']' || c = '\x7b' || c = '\x7d'

/-- The characters of a plain scalar up to a blank, a break or an indicator. -/
def readWord (inFlow : Bool) : List Char → List Char → Option (List Char × List Char)
  | word, [] => some (word.reverse, [])
  | word, c :: rest =>
      if isBlank c || isBreak c then some (word.reverse, c :: rest)
      else if c = ':' && inFlow && rest.head?.any (fun c => isFlowIndicator c || c = '?') then none
      else if c = ':' && isSeparator rest.head? then some (word.reverse, c :: rest)
      else if inFlow && isFlowIndicator c then some (word.reverse, c :: rest)
      else readWord inFlow (c :: word) rest

/-- A plain scalar. Besides its text and the position behind it, the reader tells whether the scalar
ended behind a line break. -/
def readPlain (inFlow : Bool) (indent : Nat) : Nat → Gap → List Char → Cursor →
    Option (String × Bool × Cursor)
  | 0, _, _, _ => none
  | fuel + 1, gap, read, cursor =>
      if cursor.isAtDocumentMark || cursor.nextIs (· = '#') then
        some (String.ofList read.reverse, gap.firstBreak.isSome, cursor)
      else do
        let (word, _) ← readWord inFlow [] cursor.rest
        let behind := cursor.skip word.length
        let (read, gap) :=
          if word.isEmpty then (read, gap)
          else (word.reverse ++ gap.text.reverse ++ read, Gap.none)
        if behind.nextIs fun c => isBlank c || isBreak c then
          let (gap, behind) ← readGap indent (fuel + 1) gap behind
          if !inFlow && behind.column < indent then
            some (String.ofList read.reverse, gap.firstBreak.isSome, behind)
          else readPlain inFlow indent fuel gap read behind
        else some (String.ofList read.reverse, gap.firstBreak.isSome, behind)

/-! ## Blocks -/

/-- What becomes of the line breaks at the end of a block. -/
inductive Chomping where
  /-- All of them are dropped. -/
  | strip
  /-- The first is kept. -/
  | clip
  /-- All of them are kept. -/
  | keep
deriving DecidableEq

/-- The indicators at the head of a block: its chomping and its indentation, if given. -/
def readHeader (cursor : Cursor) : Option (Chomping × Option Nat × Cursor) :=
  let chomping? (c : Char) : Option Chomping :=
    if c = '+' then some .keep else if c = '-' then some .strip else none
  let digit? (c : Char) : Option Nat :=
    if c.isDigit then some (c.toNat - '0'.toNat) else none
  let (chomping, cursor) := match cursor.next.bind chomping? with
    | some chomping => (some chomping, cursor.skip 1)
    | none => (none, cursor)
  let (width, cursor) := match cursor.next.bind digit? with
    | some width => (some width, cursor.skip 1)
    | none => (none, cursor)
  let (chomping, cursor) := match chomping, width, cursor.next.bind chomping? with
    | none, some _, some chomping => (some chomping, cursor.skip 1)
    | chomping, _, _ => (chomping, cursor)
  let cursor := cursor.skipWhile isBlank
  let cursor :=
    if cursor.nextIs (· = '#') then cursor.skipWhile fun c => !isBreak c else cursor
  if width = some 0 then none
  else if cursor.isAtEnd || cursor.nextIs isBreak then
    some (chomping.getD .clip, width, cursor.skipBreak)
  else none

/-- The line breaks before a line of a block, the greatest column of the blank lines, and the position
where the line begins. Without a given indentation all leading spaces are passed. -/
def readBlankLines (indent : Option Nat) : Nat → List Char → Nat → Cursor →
    Option (List Char × Nat × Cursor)
  | 0, _, _, _ => none
  | fuel + 1, breaks, widest, cursor =>
      let spaces := (cursor.rest.takeWhile (· = ' ')).length
      let spaces := match indent with
        | some indent => min spaces (indent - cursor.column)
        | none => spaces
      let cursor := cursor.skip spaces
      let widest := max widest cursor.column
      let isLeft := match indent with
        | some indent => decide (cursor.column < indent)
        | none => true
      if isLeft && cursor.nextIs (· = '\t') then none
      else if cursor.nextIs isBreak then
        let (lineBreak, cursor) := cursor.takeBreak
        readBlankLines indent fuel (breaks ++ lineBreak) widest cursor
      else some (breaks, widest, cursor)

/-- A block between two of its lines. -/
structure Block where
  /-- The characters so far, last first. -/
  read : List Char
  /-- The break at the end of the last line. -/
  lastBreak : List Char
  /-- The breaks of the blank lines behind it. -/
  blankLines : List Char
  /-- The last line began with a blank. -/
  wasIndented : Bool

/-- The rest of a block. -/
def readLines (folded : Bool) (indent : Nat) : Nat → Block → Cursor → Option (Block × Cursor)
  | 0, _, _ => none
  | fuel + 1, block, cursor =>
      if cursor.column = indent && !cursor.isAtEnd then do
        let isIndented := cursor.nextIs isBlank
        let gap :=
          if folded && block.lastBreak.head? == some '\n' && !block.wasIndented && !isIndented then
            if block.blankLines.isEmpty then [' '] else block.blankLines
          else block.lastBreak ++ block.blankLines
        let (line, cursor) := cursor.takeWhile fun c => !isBreak c
        let (lastBreak, cursor) := cursor.takeBreak
        let (blankLines, _, cursor) ← readBlankLines (some indent) (fuel + 1) [] 0 cursor
        readLines folded indent fuel
          { read := line.reverse ++ gap.reverse ++ block.read
            lastBreak := lastBreak
            blankLines := blankLines
            wasIndented := isIndented }
          cursor
      else some (block, cursor)

/-- A block, behind its indicator, within a collection whose content begins at a column. The bound is
greater than the number of characters that remain. -/
def readBlock (folded : Bool) (parent : Option Nat) (bound : Nat) (cursor : Cursor) :
    Option (String × Cursor) := do
  let (chomping, width, cursor) ← readHeader cursor
  let given := width.map fun width => parent.getD 0 + width
  let (blankLines, widest, cursor) ← readBlankLines given bound [] 0 cursor
  let indent := given.getD (max (max widest ((parent.map (· + 1)).getD 0)) 1)
  let (block, cursor) ← readLines folded indent bound ⟨[], [], blankLines, false⟩ cursor
  let tail := match chomping with
    | .strip => []
    | .clip => block.lastBreak
    | .keep => block.lastBreak ++ block.blankLines
  some (String.ofList (block.read.reverse ++ tail), cursor)

end Scalar

end Toolmark.Yaml
