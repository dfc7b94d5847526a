import Toolmark.Text.CaseShift
import Toolmark.Text.Property

/-!
# Lower case

The full lower case of a text. Each character is mapped alone, with two exceptions: `İ` becomes two
characters, and `Σ` becomes the final sigma `ς` at the end of a word, where a word is read through
characters such as apostrophes and accents that carry no case.
-/

namespace Toolmark.Text

/-- The image of a code point under shifts listed by increasing code point. -/
def CaseShift.apply (code : Nat) : List CaseShift → Nat
  | [] => code
  | run :: rest =>
      if code < run.first then code
      else if run.covers code then run.move code
      else CaseShift.apply code rest

/-- The lower case of a character that stands alone. -/
def lowerChar (c : Char) : List Char :=
  if c = 'İ' then ['i', '\u0307']
  else [Char.ofNat (CaseShift.apply c.toNat CaseShift.lower)]

/-- The characters beyond ASCII with the property Cased. -/
def casedSet : CodeSet := Table.set Property.cased

/-- The characters beyond ASCII with the property Case_Ignorable. -/
def caseIgnorableSet : CodeSet := Table.set Property.caseIgnorable

/-- The character has a case. -/
def isCased (c : Char) : Bool :=
  if c.toNat < 0x80 then c.isAlpha else casedSet.contains c

/-- The character is passed over when the end of a word is sought. -/
def isCaseIgnorable (c : Char) : Bool :=
  if c.toNat < 0x80 then ['\'', '.', ':', '^', '\x60'].contains c
  else caseIgnorableSet.contains c

/-- The first character that is not passed over has a case. -/
def meetsCased (cs : List Char) : Bool :=
  ((cs.dropWhile isCaseIgnorable).head?.map isCased).getD false

/-- The lower case of a sigma between the characters before it, nearest first, and after it. -/
def lowerSigma (before after : List Char) : Char :=
  if meetsCased before && !meetsCased after then 'ς' else 'σ'

/-- The lower case of the characters that follow `before`, given nearest first. -/
def lowerAfter (before : List Char) : List Char → List Char
  | [] => []
  | c :: after =>
      (if c = 'Σ' then [lowerSigma before after] else lowerChar c) ++ lowerAfter (c :: before) after

/-- The lower case of a text. -/
def lowercase (text : String) : String := String.ofList (lowerAfter [] text.toList)

end Toolmark.Text
