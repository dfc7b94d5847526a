import Toolmark.Regex.Assertion

/-!
# Regular expressions and their matches

A search reads a text once. Each leaf of the expression remembers whether it took the character just
read, so the live leaves stand for all matches in progress at once, and a search takes time
proportional to the size of the expression times the length of the text.
-/

namespace Toolmark.Regex

open Text

/-- A regular expression, with marks on the leaves that took the last character. -/
inductive Expr where
  /-- The empty text. -/
  | empty
  /-- One character of a set. -/
  | char (live : Bool) (set : CodeSet)
  /-- The empty text, at some positions. -/
  | assert (assertion : Assertion)
  /-- One expression after another. -/
  | seq (first second : Expr)
  /-- One of two expressions. -/
  | alt (left right : Expr)
  /-- Any number of repetitions. -/
  | star (body : Expr)
deriving Repr, Inhabited

/-- What an expression can do at a position without reading a character. -/
structure Reach where
  /-- It accepts the empty text there. -/
  skips : Bool
  /-- A match in progress ends there. -/
  ends : Bool
deriving DecidableEq, Repr

namespace Expr

/-- The reach of an expression at a position. -/
def reach (here : Neighbours) : Expr → Reach
  | empty => ⟨true, false⟩
  | char live _ => ⟨false, live⟩
  | assert assertion => ⟨assertion.holds here, false⟩
  | seq first second =>
      let a := first.reach here
      let b := second.reach here
      ⟨a.skips && b.skips, (a.ends && b.skips) || b.ends⟩
  | alt left right =>
      let a := left.reach here
      let b := right.reach here
      ⟨a.skips || b.skips, a.ends || b.ends⟩
  | star body => ⟨true, (body.reach here).ends⟩

/-- The expression after one more character, and its reach before that character. The flag tells
whether a match of the whole expression may begin at the character. -/
def advance (here : Neighbours) (c : Char) : Bool → Expr → Expr × Reach
  | _, empty => (empty, ⟨true, false⟩)
  | enter, char live set => (char (enter && set.contains c) set, ⟨false, live⟩)
  | _, assert assertion => (assert assertion, ⟨assertion.holds here, false⟩)
  | enter, seq first second =>
      let (first, a) := first.advance here c enter
      let (second, b) := second.advance here c ((enter && a.skips) || a.ends)
      (seq first second, ⟨a.skips && b.skips, (a.ends && b.skips) || b.ends⟩)
  | enter, alt left right =>
      let (left, a) := left.advance here c enter
      let (right, b) := right.advance here c enter
      (alt left right, ⟨a.skips || b.skips, a.ends || b.ends⟩)
  | enter, star body =>
      let a := body.reach here
      (star (body.advance here c (enter || a.ends)).1, ⟨true, a.ends⟩)

/-- A match ends in the rest of the text, or one can be found there. -/
def search (before : Option Char) : List Char → Expr → Bool
  | [], expr =>
      let reach := expr.reach ⟨before, none⟩
      reach.skips || reach.ends
  | c :: rest, expr =>
      let (next, reach) := expr.advance ⟨before, some c⟩ c true
      reach.skips || reach.ends || search (some c) rest next

/-- The expression matches some part of the text. -/
def isMatch (expr : Expr) (text : String) : Bool := search none text.toList expr

/-- A number of copies of an expression, one after another, as a balanced tree. -/
def power (expr : Expr) (count : Nat) : Expr :=
  if count = 0 then empty
  else if count = 1 then expr
  else seq (power expr (count / 2)) (power expr (count - count / 2))
termination_by count
decreasing_by all_goals omega

end Expr

end Toolmark.Regex
