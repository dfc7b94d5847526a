import Toolmark.Text.Category
import Toolmark.Text.Property

/-!
# Assertions on a position

Anchors and word boundaries accept the empty text at some positions of a line. Whether they do
depends only on the two characters next to the position.
-/

namespace Toolmark.Regex

open Text

/-- The characters next to a position of a text. -/
structure Neighbours where
  /-- The character before the position, unless the text begins there. -/
  before : Option Char
  /-- The character after the position, unless the text ends there. -/
  after : Option Char
deriving DecidableEq, Repr

/-- Which characters are parts of words. -/
inductive WordKind where
  /-- Letters, marks, digits, connectors and joiners of all scripts. -/
  | unicode
  /-- The letters and digits of ASCII and the underscore. -/
  | ascii
deriving DecidableEq, Repr

/-- The characters of words of all scripts. -/
def wordSet : CodeSet :=
  CodeSet.unions
    [Table.set Property.alphabetic, Table.set Property.joinControl,
      Category.setWhere fun category => ["Mn", "Mc", "Me", "Nd", "Pc"].contains category]

/-- The characters of words of ASCII. -/
def asciiWordSet : CodeSet := ⟨[⟨0x30, 0x39⟩, ⟨0x41, 0x5A⟩, ⟨0x5F, 0x5F⟩, ⟨0x61, 0x7A⟩]⟩

/-- The characters that a kind of words consists of. -/
def WordKind.set : WordKind → CodeSet
  | unicode => wordSet
  | ascii => asciiWordSet

/-- A condition on a position. -/
inductive Assertion where
  /-- The text begins here. -/
  | textStart
  /-- The text ends here. -/
  | textEnd
  /-- A line that ends with a line feed begins here. -/
  | lineStart
  /-- A line that ends with a line feed ends here. -/
  | lineEnd
  /-- A line that may end with a carriage return and a line feed begins here. -/
  | lineStartCrlf
  /-- A line that may end with a carriage return and a line feed ends here. -/
  | lineEndCrlf
  /-- A word begins or ends here. -/
  | boundary (words : WordKind)
  /-- No word begins or ends here. -/
  | notBoundary (words : WordKind)
  /-- A word begins here. -/
  | wordStart (words : WordKind)
  /-- A word ends here. -/
  | wordEnd (words : WordKind)
  /-- No character of a word stands before. -/
  | wordStartHalf (words : WordKind)
  /-- No character of a word stands after. -/
  | wordEndHalf (words : WordKind)
deriving DecidableEq, Repr

namespace Assertion

/-- A neighbour is a character of a word. -/
def isWord (words : WordKind) (neighbour : Option Char) : Bool :=
  (neighbour.map words.set.contains).getD false

/-- The assertion is true between two neighbours. -/
def holds (here : Neighbours) : Assertion → Bool
  | textStart => here.before.isNone
  | textEnd => here.after.isNone
  | lineStart => here.before.isNone || here.before == some '\n'
  | lineEnd => here.after.isNone || here.after == some '\n'
  | lineStartCrlf =>
      here.before.isNone || here.before == some '\n' ||
        (here.before == some '\r' && here.after != some '\n')
  | lineEndCrlf =>
      here.after.isNone || here.after == some '\r' ||
        (here.after == some '\n' && here.before != some '\r')
  | boundary words => isWord words here.before != isWord words here.after
  | notBoundary words => isWord words here.before == isWord words here.after
  | wordStart words => !isWord words here.before && isWord words here.after
  | wordEnd words => isWord words here.before && !isWord words here.after
  | wordStartHalf words => !isWord words here.before
  | wordEndHalf words => !isWord words here.after

end Assertion

end Toolmark.Regex
