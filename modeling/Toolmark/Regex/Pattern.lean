import Toolmark.Regex.Expr

/-!
# Patterns and their limits

A pattern is an expression as it was written, with counted repetitions. Before these are unfolded the
pattern is measured: nesting deeper than 250 levels is refused, and so is a pattern whose automaton
over the bytes of UTF-8 would take more than ten mebibytes.
-/

namespace Toolmark.Regex

open Text

/-- A regular expression as written. -/
inductive Pattern where
  /-- The empty text. -/
  | empty
  /-- One character. -/
  | literal (c : Char)
  /-- One character of a set. -/
  | oneOf (set : CodeSet)
  /-- The empty text, at some positions. -/
  | assert (assertion : Assertion)
  /-- One pattern after another. -/
  | seq (first second : Pattern)
  /-- One of two patterns. -/
  | alt (left right : Pattern)
  /-- A pattern in parentheses that are numbered or named. -/
  | capture (body : Pattern)
  /-- A number of repetitions between two bounds, the upper one optional. -/
  | repeated (body : Pattern) (least : Nat) (most : Option Nat)
deriving Repr, Inhabited

namespace Pattern

/-- The pattern accepts no text but the empty one. -/
def isBlank : Pattern → Bool
  | empty | assert _ => true
  | literal _ | oneOf _ => false
  | seq first second => first.isBlank && second.isBlank
  | alt left right => left.isBlank && right.isBlank
  | capture body => body.isBlank
  | repeated body _ most => body.isBlank || most == some 0

/-- The pattern accepts the empty text, or may do so at some positions. -/
def isSkippable : Pattern → Bool
  | empty | assert _ => true
  | literal _ | oneOf _ => false
  | seq first second => first.isSkippable && second.isSkippable
  | alt left right => left.isSkippable || right.isSkippable
  | capture body => body.isSkippable
  | repeated body least _ => body.isSkippable || least == 0

/-- The bounds of a repetition that matter: the empty text need not be repeated. -/
def bounds (body : Pattern) (least : Nat) (most : Option Nat) : Nat × Option Nat :=
  if body.isBlank then (min least 1, some ((most.map (min · 1)).getD 1)) else (least, most)

/-- The expression that a pattern stands for. -/
def toExpr : Pattern → Expr
  | empty => .empty
  | literal c => .char false (CodeSet.singleton c.toNat)
  | oneOf set => .char false set
  | assert assertion => .assert assertion
  | seq first second => .seq first.toExpr second.toExpr
  | alt left right => .alt left.toExpr right.toExpr
  | capture body => body.toExpr
  | repeated body least most =>
      let expr := body.toExpr
      match bounds body least most with
      | (least, none) => .seq (expr.power least) (.star expr)
      | (least, some most) =>
          .seq (expr.power least) ((Expr.alt expr .empty).power (most - least))

/-! ## Size -/

/-- The size in bytes of one state. -/
def stateSize : Nat := 32

/-- The bytes that encode a code point. -/
def codeBytes (code : Nat) : List Nat :=
  if code ≤ 0x7F then [code]
  else if code ≤ 0x7FF then [0xC0 + code / 64, 0x80 + code % 64]
  else if code ≤ 0xFFFF then [0xE0 + code / 4096, 0x80 + code / 64 % 64, 0x80 + code % 64]
  else [0xF0 + code / 262144, 0x80 + code / 4096 % 64, 0x80 + code / 64 % 64, 0x80 + code % 64]

/-- The sequences of byte ranges that encode an interval whose ends have encodings of one length. An
interval that crosses a block of trailing bytes is cut at the ends of its first and last block. -/
def byteRanges : List Nat → Nat → Nat → List (List Interval)
  | [], first, last => [List.zipWith Interval.mk (codeBytes first) (codeBytes last)]
  | block :: blocks, first, last =>
      if first / block = last / block then byteRanges blocks first last
      else
        let start := (first + block - 1) / block * block
        let stop := (last + 1) / block * block
        (if first < start then byteRanges blocks first (start - 1) else []) ++
          (if start < stop then byteRanges blocks start (stop - 1) else []) ++
          (if stop ≤ last then byteRanges blocks stop last else [])

/-- The sequences of byte ranges that encode a set of characters. -/
def encodings (set : CodeSet) : List (List Interval) :=
  set.intervals.flatMap fun interval =>
    [(0, 0x7F), (0x80, 0x7FF), (0x800, 0xD7FF), (0xE000, 0xFFFF), (0x10000, 0x10FFFF)].flatMap
      fun (low, high) =>
        let first := max interval.first low
        let last := min interval.last high
        if first ≤ last then byteRanges [64, 4096, 262144] first last else []

/-- The number of elements with which a list goes on after its common beginning with another. -/
def freshLength : List Interval → List Interval → Nat
  | x :: xs, y :: ys => if x = y then freshLength xs ys else xs.length + 1
  | xs, _ => xs.length

/-- The number of states that sequences need when neighbours share their common beginning. -/
def sharedStates : List Interval → List (List Interval) → Nat
  | _, [] => 0
  | previous, next :: rest => freshLength next previous + sharedStates next rest

/-- The size of the automaton for one character of a set. -/
def setSize (set : CodeSet) : Nat :=
  if set.isBelow 0x7F then 2 * stateSize + 8 * set.intervals.length
  else
    let sequences := encodings set
    2 * stateSize + 4 * sequences.length + stateSize * sharedStates [] sequences

/-- The size of the automaton for a pattern. -/
def size : Pattern → Nat
  | empty | assert _ => stateSize
  | literal c => stateSize * (codeBytes c.toNat).length
  | oneOf set => setSize set
  | seq first second => first.size + second.size
  | alt left right => left.size + right.size + 2 * stateSize + 8
  | capture body => body.size + 2 * stateSize
  | repeated body least most =>
      match bounds body least most with
      | (0, none) =>
          body.size + (if body.isSkippable then 3 * stateSize + 16 else stateSize + 8)
      | (least, none) => least * body.size + stateSize + 8
      | (least, some most) =>
          if least = 1 ∧ most = 1 then body.size
          else least * body.size + stateSize + (most - least) * (body.size + stateSize + 8)

/-- The greatest size of an automaton. -/
def sizeLimit : Nat := 10 * 1024 * 1024

/-- The greatest depth of nesting. -/
def depthLimit : Nat := 250

end Pattern

end Toolmark.Regex
