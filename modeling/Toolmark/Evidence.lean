import Toolmark.Technique

/-!
# Evidence

What one technique found in a binary. Evidence is positive when it holds at least one finding, and
only positive evidence can be truncated.
-/

namespace Toolmark

/-- What one technique found. -/
structure Evidence where
  /-- The technique. -/
  technique : Technique
  /-- The findings that matched a fingerprint. -/
  found : List String
  /-- The search stopped at its cap, so that there may be more. -/
  truncated : Bool
  /-- A search is cut short only after it found something. -/
  found_of_truncated : truncated = true → found ≠ []
deriving DecidableEq, Repr

namespace Evidence

/-- The line that stands behind the findings of truncated evidence. -/
def marker : String := "... (more findings omitted)"

/-- The evidence of a technique that found nothing. -/
def negative (technique : Technique) : Evidence where
  technique := technique
  found := []
  truncated := false
  found_of_truncated := by simp

/-- The evidence of a technique with given findings. Without findings it is negative, even when the
search was cut short. -/
def ofFound (technique : Technique) (found : List String) (truncated : Bool) : Evidence where
  technique := technique
  found := found
  truncated := truncated && !found.isEmpty
  found_of_truncated := by cases found <;> simp

/-- The technique found something. -/
def isPositive (evidence : Evidence) : Bool := !evidence.found.isEmpty

/-- The findings as reported, with the marker behind them if there may be more. -/
def findings (evidence : Evidence) : List String :=
  if evidence.truncated then evidence.found ++ [marker] else evidence.found

end Evidence

end Toolmark
