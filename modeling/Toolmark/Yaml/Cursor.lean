/-!
# Positions in a YAML text

A cursor holds what remains of a text and where it is. Line breaks are the line feed, the carriage
return alone or before a line feed, and three breaks of Unicode; in a scalar the first three of them
become a line feed.
-/

namespace Toolmark.Yaml

/-- A space or a tab. -/
def isBlank (c : Char) : Bool := c = ' ' || c = '\t'

/-- A line break. -/
def isBreak (c : Char) : Bool :=
  c = '\n' || c = '\r' || c = '\u0085' || c = '\u2028' || c = '\u2029'

/-- The character is a blank or a break, or the text has ended. -/
def isSeparator (c : Option Char) : Bool :=
  match c with
  | none => true
  | some c => isBlank c || isBreak c

/-- A character that may stand in a YAML text. -/
def isAllowed (c : Char) : Bool :=
  let code := c.toNat
  code = 0x9 || code = 0xA || code = 0xD || (0x20 ≤ code && code ≤ 0x7E) || code = 0x85 ||
    (0xA0 ≤ code && code ≤ 0xFFFD) || 0x10000 ≤ code

/-- A position in a text. -/
structure Cursor where
  /-- What remains of the text. -/
  rest : List Char
  /-- The number of lines before the position. -/
  line : Nat
  /-- The number of characters before it on its line. -/
  column : Nat
  /-- The number of characters before it. -/
  index : Nat

namespace Cursor

/-- The beginning of a text. -/
def start (text : List Char) : Cursor := ⟨text, 0, 0, 0⟩

/-- The next character. -/
def next (cursor : Cursor) : Option Char := cursor.rest.head?

/-- The character at some distance. -/
def at? (cursor : Cursor) (distance : Nat) : Option Char := cursor.rest[distance]?

/-- The text has ended. -/
def isAtEnd (cursor : Cursor) : Bool := cursor.rest.isEmpty

/-- The next character satisfies a condition. -/
def nextIs (cursor : Cursor) (condition : Char → Bool) : Bool := cursor.next.any condition

/-- The next character is a blank, a break or the end. -/
def isAtSeparator (cursor : Cursor) : Bool := isSeparator cursor.next

/-- The position behind some characters of one line. -/
def skip (cursor : Cursor) (count : Nat) : Cursor :=
  { cursor with
    rest := cursor.rest.drop count
    column := cursor.column + count
    index := cursor.index + count }

/-- The position behind a line break, and the break as it stands in a scalar. -/
def takeBreak (cursor : Cursor) : List Char × Cursor :=
  match cursor.rest with
  | '\r' :: '\n' :: rest => (['\n'], ⟨rest, cursor.line + 1, 0, cursor.index + 2⟩)
  | c :: rest =>
      if c = '\u2028' || c = '\u2029' then ([c], ⟨rest, cursor.line + 1, 0, cursor.index + 1⟩)
      else if isBreak c then (['\n'], ⟨rest, cursor.line + 1, 0, cursor.index + 1⟩)
      else ([], cursor)
  | [] => ([], cursor)

/-- The position behind a line break. -/
def skipBreak (cursor : Cursor) : Cursor := cursor.takeBreak.2

/-- The characters up to one that fails a condition, and the position there. -/
def takeWhile (cursor : Cursor) (condition : Char → Bool) : List Char × Cursor :=
  let taken := cursor.rest.takeWhile condition
  (taken, cursor.skip taken.length)

/-- The position behind characters that satisfy a condition. -/
def skipWhile (cursor : Cursor) (condition : Char → Bool) : Cursor :=
  (cursor.takeWhile condition).2

/-- A line of three equal marks, which separates documents, begins here. -/
def isAtMark (cursor : Cursor) (mark : Char) : Bool :=
  cursor.column = 0 && cursor.rest.take 3 == [mark, mark, mark] && isSeparator (cursor.at? 3)

/-- A line that separates documents begins here. -/
def isAtDocumentMark (cursor : Cursor) : Bool := cursor.isAtMark '-' || cursor.isAtMark '.'

end Cursor

end Toolmark.Yaml
