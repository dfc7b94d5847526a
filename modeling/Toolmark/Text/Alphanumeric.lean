import Toolmark.Text.Category
import Toolmark.Text.Property

/-!
# Letters and numbers

A character is alphanumeric if it has the property Alphabetic or is a number of any kind.
-/

namespace Toolmark.Text

/-- The characters with the property Alphabetic. -/
def alphabeticSet : CodeSet := Table.set Property.alphabetic

/-- The character is a letter or a number. -/
def isAlphanumeric (c : Char) : Bool :=
  if c.toNat < 0x80 then c.isAlphanum
  else alphabeticSet.contains c || ["Nd", "Nl", "No"].contains (Category.ofChar c)

end Toolmark.Text
