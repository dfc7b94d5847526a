import Toolmark.Regex
import Toolmark.Text.Lowercase

/-!
# Fingerprint sets

A line of tool output is tested against a fingerprint set: either a list of texts, one of which has
to occur in the line in any case, or a regular expression.
-/

namespace Toolmark

open Text

/-- A fingerprint set. -/
inductive Matcher where
  /-- Texts in lower case, one of which has to occur in the lower case of a line. -/
  | substrings (patterns : List String)
  /-- A regular expression that has to match some part of a line. -/
  | pattern (regex : Regex)
deriving Repr

namespace Matcher

/-- The fingerprint set of texts in any case. -/
def ofPatterns (patterns : List String) : Matcher := substrings (patterns.map lowercase)

/-- A list occurs in another as a contiguous part. -/
def occursIn {α : Type} [BEq α] (part : List α) : List α → Bool
  | [] => part.isEmpty
  | x :: rest => part.isPrefixOf (x :: rest) || occursIn part rest

/-- A line carries a fingerprint of the set. -/
def accepts (line : String) : Matcher → Bool
  | substrings patterns =>
      let lowered := (lowercase line).toList
      patterns.any fun pattern => occursIn pattern.toList lowered
  | pattern regex => regex.matches? line

end Matcher

end Toolmark
