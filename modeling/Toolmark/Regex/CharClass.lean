import Toolmark.Regex.Assertion
import Toolmark.Text.CaseShift
import Toolmark.Text.Script

/-!
# Named character classes

The classes that a pattern can name: digits, blanks and word characters, the classes of POSIX, and
the properties of the character database. A name of a property is read without regard to case,
blanks, hyphens, underscores and a leading `is`.
-/

namespace Toolmark.Regex

open Text

namespace CharClass

/-- The decimal digits. -/
def digit (unicode : Bool) : CodeSet :=
  if unicode then Category.set "Nd" else CodeSet.range 0x30 0x39

/-- The blank characters. -/
def space (unicode : Bool) : CodeSet :=
  if unicode then Table.set Property.whiteSpace else ⟨[⟨9, 13⟩, ⟨0x20, 0x20⟩]⟩

/-- The characters of words. -/
def word (unicode : Bool) : CodeSet :=
  if unicode then wordSet else asciiWordSet

/-- The class of POSIX with a given name. -/
def posix? (name : String) : Option CodeSet :=
  match name with
  | "alnum" => some ⟨[⟨0x30, 0x39⟩, ⟨0x41, 0x5A⟩, ⟨0x61, 0x7A⟩]⟩
  | "alpha" => some ⟨[⟨0x41, 0x5A⟩, ⟨0x61, 0x7A⟩]⟩
  | "ascii" => some ⟨[⟨0, 0x7F⟩]⟩
  | "blank" => some ⟨[⟨9, 9⟩, ⟨0x20, 0x20⟩]⟩
  | "cntrl" => some ⟨[⟨0, 0x1F⟩, ⟨0x7F, 0x7F⟩]⟩
  | "digit" => some ⟨[⟨0x30, 0x39⟩]⟩
  | "graph" => some ⟨[⟨0x21, 0x7E⟩]⟩
  | "lower" => some ⟨[⟨0x61, 0x7A⟩]⟩
  | "print" => some ⟨[⟨0x20, 0x7E⟩]⟩
  | "punct" => some ⟨[⟨0x21, 0x2F⟩, ⟨0x3A, 0x40⟩, ⟨0x5B, 0x60⟩, ⟨0x7B, 0x7E⟩]⟩
  | "space" => some ⟨[⟨9, 13⟩, ⟨0x20, 0x20⟩]⟩
  | "upper" => some ⟨[⟨0x41, 0x5A⟩]⟩
  | "word" => some asciiWordSet
  | "xdigit" => some ⟨[⟨0x30, 0x39⟩, ⟨0x41, 0x46⟩, ⟨0x61, 0x66⟩]⟩
  | _ => none

/-- The letters of a name that count: in lower case, without blanks, hyphens and underscores. -/
def plainName (name : List Char) : String :=
  let plain (letters : List Char) : List Char :=
    (letters.filter fun c => c.toNat < 0x80 && c != ' ' && c != '_' && c != '-').map Char.toLower
  match name with
  | i :: s :: rest =>
      if i.toLower = 'i' && s.toLower = 's' then
        if plain rest == ['c'] then "isc" else String.ofList (plain rest)
      else String.ofList (plain name)
  | _ => String.ofList (plain name)

/-- The category or the collection of categories with a given plain name. -/
def category? (name : String) : Option CodeSet :=
  match name with
  | "any" => some CodeSet.all
  | "ascii" => some (CodeSet.range 0 0x7F)
  | "assigned" => some (Category.set "Cn").complement
  | _ => (Category.ofName? name).map Category.set

/-- The script with a given plain name. -/
def script? (name : String) : Option CodeSet := (Script.ofName? name).map Script.set

/-- The property with a given name. -/
def property? (name : List Char) : Option CodeSet :=
  let plain := plainName name
  let binary := if ["cf", "sc", "lc"].contains plain then none else Property.ofName? plain
  (binary.orElse fun _ => category? plain).orElse fun _ => script? plain

/-- The code points for which a property has a given value. -/
def valueOf? (property value : List Char) : Option CodeSet :=
  let value := plainName value
  match plainName property with
  | "gc" | "generalcategory" | "category" => category? value
  | "sc" | "script" => script? value
  | "scx" | "scriptextensions" => (Script.ofName? value).map Script.extendedSet
  | _ => none

/-- The code points that differ from an element in case alone, and the elements. -/
def fold (unicode : Bool) (set : CodeSet) : CodeSet :=
  if unicode then
    let added := CaseShift.folding.flatMap fun run => run.codes.flatMap fun code =>
      (if set.containsCode code then [run.move code] else []) ++
        (if set.containsCode (run.move code) then [code] else [])
    CodeSet.ofIntervals (set.intervals ++ added.map fun code => ⟨code, code⟩)
  else
    let added := (List.range 26).flatMap fun i =>
      (if set.containsCode (0x41 + i) then [0x61 + i] else []) ++
        (if set.containsCode (0x61 + i) then [0x41 + i] else [])
    CodeSet.ofIntervals (set.intervals ++ added.map fun code => ⟨code, code⟩)

end CharClass

end Toolmark.Regex
