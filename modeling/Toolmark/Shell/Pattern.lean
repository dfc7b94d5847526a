import Toolmark.Shell.Script

/-!
# Patterns of the shell

Patterns with `?`, `*` and bracket lists, matched against a whole text. Quoted characters stand for
themselves.
-/

namespace Toolmark.Shell

/-- A part of a pattern. -/
inductive Wildcard where
  /-- One given octet. -/
  | exactly (c : Char)
  /-- Any octet. -/
  | anyOne
  /-- Any octets. -/
  | anyMany
  /-- An octet within some ranges, or outside all of them. -/
  | oneOf (isNegated : Bool) (ranges : List (Char × Char))
deriving DecidableEq, Repr

/-- A pattern. -/
abbrev Pattern := List Wildcard

namespace Pattern

/-- The ranges in a bracket list and what follows its closing bracket. -/
def ranges (isFirst : Bool) :
    List (Char × Bool) → Option (List (Char × Char) × List (Char × Bool))
  | [] => none
  | (c, isQuoted) :: rest =>
      if c == ']' && !isQuoted && !isFirst then some ([], rest)
      else
        match rest with
        | ('-', false) :: (last, isQuoted) :: rest =>
            if last == ']' && !isQuoted then some ([(c, c), ('-', '-')], rest)
            else (ranges false rest).map fun (more, rest) => ((c, last) :: more, rest)
        | rest => (ranges false rest).map fun (more, rest) => ((c, c) :: more, rest)

/-- The pattern in a text whose characters are marked as quoted or not, given a bound for its
length. -/
def read : Nat → List (Char × Bool) → Pattern
  | 0, _ => []
  | _, [] => []
  | bound + 1, (c, isQuoted) :: rest =>
      if isQuoted then .exactly c :: read bound rest
      else match c with
        | '?' => .anyOne :: read bound rest
        | '*' => .anyMany :: read bound rest
        | '[' =>
            let (isNegated, inner) := match rest with
              | ('!', false) :: rest => (true, rest)
              | rest => (false, rest)
            match ranges true inner with
            | some (ranges, rest) => .oneOf isNegated ranges :: read bound rest
            | none => .exactly c :: read bound rest
        | c => .exactly c :: read bound rest

/-- The pattern in a marked text. -/
def ofMarked (text : List (Char × Bool)) : Pattern := read text.length text

/-- The pattern matches the whole text. -/
def accepts : Pattern → Octets → Bool
  | [], text => text.isEmpty
  | .exactly c :: rest, d :: text => c == d && accepts rest text
  | .anyOne :: rest, _ :: text => accepts rest text
  | .oneOf isNegated ranges :: rest, c :: text =>
      (ranges.any fun range => range.1 ≤ c && c ≤ range.2) != isNegated && accepts rest text
  | .anyMany :: rest, [] => accepts rest []
  | .anyMany :: rest, c :: text => accepts rest (c :: text) || accepts (.anyMany :: rest) text
  | _ :: _, [] => false
termination_by pattern text => (text.length, pattern.length)

/-- The text without the shortest or the longest beginning that the pattern matches. -/
def cutStart (pattern : Pattern) (longest : Bool) (text : Octets) : Octets :=
  let lengths := List.range (text.length + 1)
  let lengths := if longest then lengths.reverse else lengths
  match lengths.find? fun length => pattern.accepts (text.take length) with
  | some length => text.drop length
  | none => text

/-- The text without the shortest or the longest ending that the pattern matches. -/
def cutEnd (pattern : Pattern) (longest : Bool) (text : Octets) : Octets :=
  let lengths := List.range (text.length + 1)
  let lengths := if longest then lengths else lengths.reverse
  match lengths.find? fun length => pattern.accepts (text.drop length) with
  | some length => text.take length
  | none => text

end Pattern

end Toolmark.Shell
