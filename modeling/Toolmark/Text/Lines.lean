/-!
# Lines

A text is cut into lines at every line feed, and nowhere else: a text of `n` line feeds has `n + 1`
lines, the empty text has one. Joining the lines gives the text back.
-/

namespace Toolmark.Text

/-- One step of `segments`, from the last element to the first. -/
def consSegment {α : Type} [DecidableEq α] (separator x : α) : List (List α) → List (List α)
  | [] => if x = separator then [[], []] else [[x]]
  | segment :: rest => if x = separator then [] :: segment :: rest else (x :: segment) :: rest

/-- The parts of a list between the occurrences of a separator. -/
def segments {α : Type} [DecidableEq α] (separator : α) (xs : List α) : List (List α) :=
  xs.foldr (consSegment separator) [[]]

/-- The lines of a text, without their line feeds. -/
def lines (text : String) : List String :=
  (segments '\n' text.toList).map String.ofList

/-- The text whose lines are given. -/
def unlines (texts : List String) : String := "\n".intercalate texts

end Toolmark.Text
