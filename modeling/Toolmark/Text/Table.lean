import Toolmark.Text.CodeSet
import Toolmark.Text.Lines

/-!
# Written tables of code points

The character database is kept as text: words separated by blanks and line feeds, with code
points in hexadecimal. `41` is one code point, `41-5a` an interval, and `100-12e/2` every second code point
of an interval. A table of runs alternates the first code point of a run with the value that holds
up to the next run.
-/

namespace Toolmark.Text

namespace Table

/-- The value of a hexadecimal digit. -/
def hexDigit? (c : Char) : Option Nat :=
  if '0' ≤ c && c ≤ '9' then some (c.toNat - '0'.toNat)
  else if 'a' ≤ c && c ≤ 'f' then some (c.toNat - 'a'.toNat + 10)
  else if 'A' ≤ c && c ≤ 'F' then some (c.toNat - 'A'.toNat + 10)
  else none

/-- The value of a hexadecimal numeral; other characters count as the digit zero. -/
def hex (digits : List Char) : Nat :=
  digits.foldl (fun value c => 16 * value + (hexDigit? c).getD 0) 0

/-- The nonempty words of a text. -/
def words (text : String) : List (List Char) :=
  (segments ' ' (text.toList.map fun c => if c = '\n' then ' ' else c)).filter (!·.isEmpty)

/-- The intervals that one word names. -/
def intervals (word : List Char) : List Interval :=
  match segments '-' word with
  | [code] => [⟨hex code, hex code⟩]
  | [first, last] =>
      match segments '/' last with
      | [last, step] =>
          let count := (hex last - hex first) / hex step + 1
          (List.range count).map fun i => ⟨hex first + i * hex step, hex first + i * hex step⟩
      | _ => [⟨hex first, hex last⟩]
  | _ => []

/-- The set that a table of intervals lists. -/
def set (text : String) : CodeSet := CodeSet.ofIntervals ((words text).flatMap intervals)

/-- The runs of a table: each interval of code points with its value. -/
def runs : List (List Char) → List (Interval × List Char)
  | [first, value] => [(⟨hex first, CodeSet.top⟩, value)]
  | first :: value :: next :: rest =>
      (⟨hex first, hex next - 1⟩, value) :: runs (next :: rest)
  | _ => []

end Table

end Toolmark.Text
