/-!
# Sets of code points

Character classes are finite unions of intervals of code points. A set is kept as increasing
intervals with a gap between any two, so union, complement and the operations built from them are
single passes over the intervals.
-/

namespace Toolmark.Text

/-- An interval of code points, both ends included. -/
structure Interval where
  /-- Least code point of the interval. -/
  first : Nat
  /-- Greatest code point of the interval. -/
  last : Nat
deriving DecidableEq, Repr

namespace Interval

/-- Membership of a code point. -/
def contains (interval : Interval) (code : Nat) : Bool :=
  interval.first ≤ code && code ≤ interval.last

/-- The merger of increasing intervals that overlap or touch, with `current` still open. -/
def join (current : Interval) : List Interval → List Interval
  | [] => [current]
  | next :: rest =>
      if next.first ≤ current.last + 1 then
        join ⟨current.first, max current.last next.last⟩ rest
      else
        current :: join next rest

/-- The gaps that increasing intervals leave between `start` and `top`. -/
def gaps (top start : Nat) : List Interval → List Interval
  | [] => if start ≤ top then [⟨start, top⟩] else []
  | next :: rest =>
      if start < next.first then
        ⟨start, next.first - 1⟩ :: gaps top (next.last + 1) rest
      else
        gaps top (max start (next.last + 1)) rest

end Interval

/-- A set of code points. -/
structure CodeSet where
  /-- Increasing intervals, with a gap between any two. -/
  intervals : List Interval
deriving DecidableEq, Repr, Inhabited

namespace CodeSet

/-- The greatest code point. -/
def top : Nat := 0x10FFFF

/-- The set without elements. -/
def empty : CodeSet := ⟨[]⟩

/-- The set of all code points. -/
def all : CodeSet := ⟨[⟨0, top⟩]⟩

/-- The set of one code point. -/
def singleton (code : Nat) : CodeSet := ⟨[⟨code, code⟩]⟩

/-- The set of the code points from `first` to `last`. -/
def range (first last : Nat) : CodeSet := if first ≤ last then ⟨[⟨first, last⟩]⟩ else empty

/-- The union of intervals in any order. -/
def ofIntervals (intervals : List Interval) : CodeSet :=
  match (intervals.filter fun i => i.first ≤ i.last).mergeSort (fun i j => i.first ≤ j.first) with
  | [] => empty
  | first :: rest => ⟨first.join rest⟩

/-- Membership of a code point. The search stops at the first interval above it. -/
def containsCode (set : CodeSet) (code : Nat) : Bool :=
  go set.intervals
where
  go : List Interval → Bool
    | [] => false
    | next :: rest => next.first ≤ code && (code ≤ next.last || go rest)

/-- Membership of a character. -/
def contains (set : CodeSet) (c : Char) : Bool := set.containsCode c.toNat

/-- The set has no element. -/
def isEmpty (set : CodeSet) : Bool := set.intervals.isEmpty

/-- Every element is at most `bound`. -/
def isBelow (set : CodeSet) (bound : Nat) : Bool := set.intervals.all fun i => i.last ≤ bound

/-- The elements of either set. -/
def union (left right : CodeSet) : CodeSet := ofIntervals (left.intervals ++ right.intervals)

/-- The code points up to `bound` that are not elements. -/
def complementBelow (bound : Nat) (set : CodeSet) : CodeSet :=
  ⟨Interval.gaps bound 0 set.intervals⟩

/-- The code points that are not elements. -/
def complement (set : CodeSet) : CodeSet := set.complementBelow top

/-- The elements of both sets. -/
def inter (left right : CodeSet) : CodeSet := (left.complement.union right.complement).complement

/-- The elements of the first set that are not in the second. -/
def diff (left right : CodeSet) : CodeSet := left.inter right.complement

/-- The elements of exactly one of the sets. -/
def symmDiff (left right : CodeSet) : CodeSet := (left.diff right).union (right.diff left)

/-- The elements of some set of a list. -/
def unions (sets : List CodeSet) : CodeSet := ofIntervals (sets.flatMap (·.intervals))

end CodeSet

end Toolmark.Text
