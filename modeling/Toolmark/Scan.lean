import Toolmark.Matcher
import Toolmark.Text.Blank
import Toolmark.Text.Lines

/-!
# Scans of tool output

A scan tests every line of a text once, in order, and renders each accepted line as a finding. It
stops behind the line with which the number of findings reaches the cap.
-/

namespace Toolmark

open Text

/-- How an accepted line becomes a finding. -/
inductive Style where
  /-- The line as it stands. -/
  | verbatim
  /-- The line without the blanks at its ends. -/
  | trimmed
  /-- The line with some lines on both sides, under a label. -/
  | context (radius : Nat) (label : String)
deriving DecidableEq, Repr

namespace Style

/-- The index of the first line of the window around a line. -/
def windowStart (index radius : Nat) : Nat := index - radius

/-- The index behind the last line of the window around a line, of a number of lines. There is no
limit to the sum. -/
def windowStop (count index radius : Nat) : Nat := min (index + radius + 1) count

/-- The lines at most `radius` away from a line. -/
def window (lines : List String) (index radius : Nat) : List String :=
  let start := windowStart index radius
  let stop := windowStop lines.length index radius
  (lines.drop start).take (stop - start)

/-- The finding for a line at an index of a text. -/
def render (lines : List String) (index : Nat) (line : String) : Style → String
  | verbatim => line
  | trimmed => trimBlanks line
  | context radius label => label ++ ":\n" ++ unlines (window lines index radius)

end Style

/-- What a scan found. -/
structure Scan where
  /-- The findings in the order of their lines. -/
  findings : List String
  /-- The scan reached its cap. -/
  truncated : Bool
deriving DecidableEq, Repr

namespace Scan

/-- The scan of the lines from an index on, with room for some more findings than those already
found, last first. -/
def resume (matcher : Matcher) (style : Style) (lines : List String) (found : List String)
    (room index : Nat) : List String → Scan
  | [] => ⟨found.reverse, false⟩
  | line :: rest =>
      let isAccepted := matcher.accepts line
      let found := if isAccepted then style.render lines index line :: found else found
      let room := if isAccepted then room - 1 else room
      if room = 0 then ⟨found.reverse, true⟩
      else resume matcher style lines found room (index + 1) rest

/-- The scan of a text. -/
def run (text : String) (matcher : Matcher) (style : Style) (cap : Nat) : Scan :=
  let lines := lines text
  resume matcher style lines [] cap 0 lines

end Scan

end Toolmark
