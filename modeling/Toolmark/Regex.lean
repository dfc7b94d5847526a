import Toolmark.Regex.Reader

/-!
# Compiled regular expressions

A regular expression that can be searched for, together with the text it was made from.
-/

namespace Toolmark

/-- A regular expression with its source text. -/
structure Regex where
  /-- The text of the pattern. -/
  source : String
  /-- The expression that it stands for. -/
  expr : Regex.Expr
deriving Repr

namespace Regex

/-- The regular expression with a given source, if the source is a pattern within the limits on
nesting and size. -/
def compile? (source : String) : Option Regex := do
  let (pattern, depth) ← Pattern.read? source
  if Pattern.depthLimit < depth || Pattern.sizeLimit < pattern.size then none
  else some ⟨source, pattern.toExpr⟩

/-- The regular expression matches some part of a text. -/
def matches? (regex : Regex) (text : String) : Bool := regex.expr.isMatch text

end Regex

end Toolmark
