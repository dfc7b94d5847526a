import Toolmark.Evidence

/-!
# Verdicts

Every technique with positive evidence is one vote. The number of votes alone sets the confidence.
-/

namespace Toolmark

/-- How sure a verdict is, from weakest to strongest. -/
inductive Confidence where
  /-- No technique found anything. -/
  | none
  /-- One technique did. -/
  | low
  /-- Two techniques did. -/
  | medium
  /-- Three techniques did. -/
  | high
  /-- Four or more techniques did. -/
  | veryHigh
deriving DecidableEq, Repr

namespace Confidence

/-- All confidences from weakest to strongest. -/
def all : List Confidence := [none, low, medium, high, veryHigh]

/-- The confidence for a number of votes. -/
def ofVotes : Nat → Confidence
  | 0 => none
  | 1 => low
  | 2 => medium
  | 3 => high
  | _ + 4 => veryHigh

/-- The place of a confidence in the order of strength. -/
def rank : Confidence → Nat
  | none => 0
  | low => 1
  | medium => 2
  | high => 3
  | veryHigh => 4

instance : LE Confidence where
  le weaker stronger := weaker.rank ≤ stronger.rank

instance : LT Confidence where
  lt weaker stronger := weaker.rank < stronger.rank

instance (weaker stronger : Confidence) : Decidable (weaker ≤ stronger) :=
  inferInstanceAs (Decidable (weaker.rank ≤ stronger.rank))

instance (weaker stronger : Confidence) : Decidable (weaker < stronger) :=
  inferInstanceAs (Decidable (weaker.rank < stronger.rank))

/-- The confidence in words. -/
def words : Confidence → String
  | none => "none"
  | low => "low"
  | medium => "medium"
  | high => "high"
  | veryHigh => "very high"

/-- The identifier of a confidence in machine-readable reports. -/
def id : Confidence → String
  | none => "none"
  | low => "low"
  | medium => "medium"
  | high => "high"
  | veryHigh => "very_high"

/-- The confidence with a given identifier. -/
def ofId? (id : String) : Option Confidence := all.find? fun confidence => confidence.id = id

end Confidence

/-- The classification of a binary. -/
structure Verdict where
  /-- The binary carries traces of the compiler. -/
  isMatch : Bool
  /-- How sure this is. -/
  confidence : Confidence
  /-- The number of techniques with positive evidence. -/
  positives : Nat
  /-- The number of techniques consulted. -/
  total : Nat
deriving DecidableEq, Repr

namespace Verdict

/-- The number of techniques with positive evidence. -/
def votes (evidence : List Evidence) : Nat := evidence.countP Evidence.isPositive

/-- The verdict that evidence gives. -/
def ofEvidence (evidence : List Evidence) : Verdict where
  isMatch := 0 < votes evidence
  confidence := Confidence.ofVotes (votes evidence)
  positives := votes evidence
  total := evidence.length

end Verdict

end Toolmark
