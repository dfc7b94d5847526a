import Toolmark.Text.Category
import Toolmark.Text.Property

/-!
# Quoted text

The quoted form of a text in messages. Quotation marks and backslashes are escaped by a backslash,
the usual controls by their letter, and every other character that would not show, or would combine
with its neighbour, by its code point in braces.
-/

namespace Toolmark.Text

/-- The characters that extend the character before them. -/
def extendingSet : CodeSet := Table.set Property.graphemeExtend

/-- The character shows when it stands alone. -/
def isPrintable (c : Char) : Bool :=
  if c.toNat < 0x7F then 0x20 ≤ c.toNat
  else !(["Cc", "Cf", "Cn", "Co", "Cs", "Zl", "Zp", "Zs"].contains (Category.ofChar c))

/-- The hexadecimal numeral of a number, in lower case. -/
def hexNumeral (value : Nat) : List Char := Nat.toDigits 16 value

/-- The form of one character between quotation marks. -/
def quoteChar (c : Char) : List Char :=
  if c = '"' then ['\\', '"']
  else if c = '\\' then ['\\', '\\']
  else if c = '\n' then ['\\', 'n']
  else if c = '\r' then ['\\', 'r']
  else if c = '\t' then ['\\', 't']
  else if c.toNat = 0 then ['\\', '0']
  else if isPrintable c && !extendingSet.contains c then [c]
  else ['\\', 'u', '\x7b'] ++ hexNumeral c.toNat ++ ['\x7d']

/-- The quoted form of a text. -/
def quote (text : String) : String :=
  String.ofList ('"' :: text.toList.flatMap quoteChar ++ ['"'])

end Toolmark.Text
