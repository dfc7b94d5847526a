import Mathlib.Logic.Function.Basic
import Toolmark.Evidence

/-!
# Evidence written down

Written down, evidence is a record: one list of findings with the marker among them, and two flags
beside the list. A finding may read like the marker, so that only a flag tells whether the last
entry is one. The records of evidence are those whose parts agree, and evidence is read back from
its record.
-/

namespace Toolmark

namespace Evidence

/-! ## Positive and truncated evidence -/

theorem isPositive_iff (evidence : Evidence) :
    evidence.isPositive = true ↔ evidence.found ≠ [] := by
  rw [isPositive, Bool.not_eq_true', List.isEmpty_eq_false_iff]

theorem findings_eq_nil_iff (evidence : Evidence) :
    evidence.findings = [] ↔ evidence.isPositive = false := by
  unfold findings isPositive
  cases isTruncated : evidence.truncated with
  | false => simp
  | true => simp [evidence.found_of_truncated isTruncated]

theorem truncated_ofFound_iff (technique : Technique) (found : List String) (truncated : Bool) :
    (ofFound technique found truncated).truncated = true ↔ truncated = true ∧ found ≠ [] := by
  rw [ofFound, Bool.and_eq_true, Bool.not_eq_true', List.isEmpty_eq_false_iff]

theorem ofFound_found (evidence : Evidence) :
    ofFound evidence.technique evidence.found evidence.truncated = evidence := by
  have same : (evidence.truncated && !evidence.found.isEmpty) = evidence.truncated := by
    cases isTruncated : evidence.truncated with
    | false => rfl
    | true => simpa using evidence.found_of_truncated isTruncated
  cases evidence
  simp_all [ofFound]

/-! ## Records -/

/-- Evidence written down. Nothing in it keeps the parts together. -/
@[ext]
structure Record where
  /-- The technique. -/
  technique : Technique
  /-- The findings, with the marker behind them if there may be more. -/
  findings : List String
  /-- The technique found something. -/
  positive : Bool
  /-- The last entry of the findings is the marker. -/
  truncated : Bool
deriving DecidableEq, Repr

namespace Record

/-- The record of a technique that found nothing. -/
def negative (technique : Technique) : Record := ⟨technique, [], false, false⟩

/-- The record of given findings. The marker is only put behind some finding. -/
def ofFound (technique : Technique) (found : List String) (truncated : Bool) : Record :=
  if found.isEmpty then negative technique
  else ⟨technique, if truncated then found ++ [marker] else found, true, truncated⟩

/-- The findings of a record without its marker. A truncated record loses its last entry, whatever
its text; if it has no entry, there is nothing to cut off. -/
def found? (record : Record) : Option (List String) :=
  if record.truncated then
    match record.findings.length with
    | 0 => none
    | length + 1 => some (record.findings.take length)
  else some record.findings

/-- The parts of a record agree with each other and with the findings that they tell. -/
structure Tells (record : Record) (found : List String) : Prop where
  /-- The marker is cut off within the list. -/
  found?_eq : record.found? = some found
  positive_iff_found : record.positive = true ↔ found ≠ []
  positive_iff_findings : record.positive = true ↔ record.findings ≠ []
  positive_of_truncated : record.truncated = true → record.positive = true
  /-- There is one marker behind the findings if there may be more, and none otherwise. -/
  findings_eq : record.findings = if record.truncated then found ++ [marker] else found

variable {record : Record} {found : List String}

theorem found?_of_findings_eq
    (findings_eq : record.findings = if record.truncated then found ++ [marker] else found) :
    record.found? = some found := by
  cases isTruncated : record.truncated with
  | false =>
      rw [isTruncated] at findings_eq
      rw [found?, isTruncated, findings_eq]
      rfl
  | true =>
      rw [isTruncated, if_pos rfl] at findings_eq
      have length_eq : record.findings.length = found.length + 1 := by
        rw [findings_eq, List.length_append, List.length_singleton]
      have cut : record.findings.take found.length = found := by
        rw [findings_eq, List.take_left]
      simp only [found?, isTruncated, if_true, length_eq, cut]

/-- A record whose parts agree is made again from what it tells. -/
theorem Tells.ofFound_eq (tells : record.Tells found) :
    ofFound record.technique found record.truncated = record := by
  have findings_eq := tells.findings_eq
  cases found with
  | nil =>
      have negative : record.positive = false := by simpa using tells.positive_iff_found
      have complete : record.truncated = false := by
        simpa [negative] using tells.positive_of_truncated
      rw [complete] at findings_eq
      exact Record.ext rfl findings_eq.symm negative.symm complete.symm
  | cons first rest =>
      have positive : record.positive = true :=
        tells.positive_iff_found.mpr (List.cons_ne_nil first rest)
      exact Record.ext rfl findings_eq.symm positive.symm rfl

end Record

/-! ## The record of evidence -/

/-- Evidence as it is written down. -/
def record (evidence : Evidence) : Record where
  technique := evidence.technique
  findings := evidence.findings
  positive := evidence.isPositive
  truncated := evidence.truncated

theorem record_ofFound (technique : Technique) (found : List String) (truncated : Bool) :
    (ofFound technique found truncated).record = .ofFound technique found truncated := by
  cases found with
  | nil => cases truncated <;> rfl
  | cons first rest => cases truncated <;> rfl

theorem record_tells (evidence : Evidence) : evidence.record.Tells evidence.found where
  found?_eq := Record.found?_of_findings_eq rfl
  positive_iff_found := evidence.isPositive_iff
  positive_iff_findings := by
    rw [Ne, record, evidence.findings_eq_nil_iff, Bool.not_eq_false]
  positive_of_truncated := fun truncated =>
    evidence.isPositive_iff.mpr (evidence.found_of_truncated truncated)
  findings_eq := rfl

/-- The records of evidence are those whose parts agree. -/
theorem exists_record_eq_iff {record : Record} {found : List String} :
    (∃ evidence : Evidence, evidence.record = record ∧ evidence.found = found) ↔
      record.Tells found := by
  constructor
  · rintro ⟨evidence, rfl, rfl⟩
    exact evidence.record_tells
  · intro tells
    refine ⟨ofFound record.technique found record.truncated, ?_, rfl⟩
    rw [record_ofFound, tells.ofFound_eq]

theorem record_injective : Function.Injective record := by
  intro left right same
  have technique : left.technique = right.technique := congrArg Record.technique same
  have truncated : left.truncated = right.truncated := congrArg Record.truncated same
  have found : left.found = right.found := by
    have left_found := left.record_tells.found?_eq
    rw [same, right.record_tells.found?_eq] at left_found
    exact (Option.some.inj left_found).symm
  rw [← left.ofFound_found, ← right.ofFound_found, technique, found, truncated]

end Evidence

end Toolmark
