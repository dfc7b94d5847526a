import Mathlib.Data.List.Forall2
import Toolmark.Verdict

/-!
# Votes and confidence

The confidence grows with the votes, by at most one tier for each of them. Votes are counted: the
order of the evidence does not matter, and the votes of two lists are added. So a single piece of
evidence that turns positive raises the confidence by one tier, until four others are positive.
-/

namespace Toolmark

namespace Confidence

theorem rank_ofVotes (votes : Nat) : (ofVotes votes).rank = min votes 4 := by
  match votes with
  | 0 | 1 | 2 | 3 => rfl
  | votes + 4 => exact (Nat.min_eq_right (Nat.le_add_left 4 votes)).symm

theorem ofVotes_le {fewer more : Nat} (le : fewer ≤ more) : ofVotes fewer ≤ ofVotes more := by
  change (ofVotes fewer).rank ≤ (ofVotes more).rank
  rw [rank_ofVotes, rank_ofVotes]
  omega

theorem rank_ofVotes_add_le (votes more : Nat) :
    (ofVotes (votes + more)).rank ≤ (ofVotes votes).rank + more := by
  rw [rank_ofVotes, rank_ofVotes]
  omega

theorem rank_injective {left right : Confidence} (same : left.rank = right.rank) :
    left = right := by
  cases left <;> cases right <;> first | rfl | nomatch same

theorem ofVotes_min (votes : Nat) : ofVotes (min 4 votes) = ofVotes votes := by
  apply rank_injective
  rw [rank_ofVotes, rank_ofVotes]
  omega

theorem ofVotes_of_le {votes : Nat} (plenty : 4 ≤ votes) : ofVotes votes = veryHigh := by
  apply rank_injective
  rw [rank_ofVotes]
  exact Nat.min_eq_right plenty

theorem ofVotes_ne_none_iff (votes : Nat) : ofVotes votes ≠ none ↔ 0 < votes := by
  cases votes with
  | zero => simp [ofVotes]
  | succ votes =>
      have raised : (ofVotes (votes + 1)).rank ≠ none.rank := by
        rw [rank_ofVotes, rank]
        omega
      exact ⟨fun _ => votes.succ_pos, fun _ same => raised (congrArg rank same)⟩

end Confidence

namespace Verdict

/-! ## Counting -/

theorem votes_append (left right : List Evidence) :
    votes (left ++ right) = votes left + votes right :=
  List.countP_append

theorem votes_append_cons (front : List Evidence) (evidence : Evidence) (back : List Evidence) :
    votes (front ++ evidence :: back) =
      votes (front ++ back) + if evidence.isPositive then 1 else 0 := by
  rw [votes, List.countP_append, List.countP_cons, votes, List.countP_append, Nat.add_assoc]

theorem votes_le_length (evidence : List Evidence) : votes evidence ≤ evidence.length :=
  List.countP_le_length

theorem ofEvidence_perm {left right : List Evidence} (perm : left.Perm right) :
    ofEvidence left = ofEvidence right := by
  have same : votes left = votes right := perm.countP_eq _
  rw [ofEvidence, ofEvidence, same, perm.length_eq]

end Verdict

theorem Verdict.votes_le_of_forall₂ {before after : List Evidence}
    (stays : List.Forall₂ (fun found kept => found.isPositive = true → kept.isPositive = true)
      before after) : votes before ≤ votes after := by
  induction stays with
  | nil => exact Nat.le_refl 0
  | @cons found kept before after first _ induction =>
      unfold votes at induction ⊢
      rw [List.countP_cons, List.countP_cons]
      cases positive : found.isPositive with
      | false =>
          refine Nat.le_trans ?_ (Nat.le_add_right _ _)
          simpa using induction
      | true => simpa [first positive] using induction

/-- All evidence counts alike. Its order does not matter; the votes of two lists are added, and
their confidence is that of at most four of them together, so it is at least that of either list.
There is a match exactly if there is some confidence, that is if there is a vote. Where one piece of
evidence turns from negative to positive, the confidence rises by one tier if fewer than four others
are positive, and is the highest before and after otherwise. -/
theorem evidence_counts_alike (left right : List Evidence) :
    let first := Verdict.ofEvidence left
    let second := Verdict.ofEvidence right
    let whole := Verdict.ofEvidence (left ++ right)
    (∀ other, left.Perm other → Verdict.ofEvidence other = first) ∧
      (whole.positives = first.positives + second.positives ∧
        whole.total = first.total + second.total) ∧
      (first.confidence ≤ whole.confidence ∧ second.confidence ≤ whole.confidence) ∧
      (whole.confidence = Confidence.ofVotes (min 4 (first.positives + second.positives)) ∧
        whole.confidence.rank = min 4 (first.positives + second.positives)) ∧
      ((first.isMatch = true ↔ 0 < first.positives) ∧
        (first.confidence ≠ .none ↔ 0 < first.positives) ∧ first.positives ≤ first.total) ∧
      ∀ before after : Evidence, before.isPositive = false → after.isPositive = true →
        let lower := (Verdict.ofEvidence (left ++ before :: right)).confidence
        let higher := (Verdict.ofEvidence (left ++ after :: right)).confidence
        (whole.positives < 4 → higher.rank = lower.rank + 1) ∧
          (4 ≤ whole.positives → lower = .veryHigh ∧ higher = .veryHigh) := by
  intro first second whole
  have positives_eq : whole.positives = first.positives + second.positives :=
    Verdict.votes_append left right
  have confidence_eq : whole.confidence = Confidence.ofVotes (first.positives + second.positives) :=
    congrArg Confidence.ofVotes positives_eq
  refine ⟨fun other perm => (Verdict.ofEvidence_perm perm).symm,
    ⟨positives_eq, List.length_append⟩, ⟨?_, ?_⟩, ⟨?_, ?_⟩,
    ⟨decide_eq_true_iff, Confidence.ofVotes_ne_none_iff _, Verdict.votes_le_length left⟩, ?_⟩
  · rw [confidence_eq]
    exact Confidence.ofVotes_le (Nat.le_add_right _ _)
  · rw [confidence_eq]
    exact Confidence.ofVotes_le (Nat.le_add_left _ _)
  · rw [confidence_eq, Confidence.ofVotes_min]
  · rw [confidence_eq, Confidence.rank_ofVotes, Nat.min_comm]
  · intro before after negative positive lower higher
    have lower_eq : lower = Confidence.ofVotes whole.positives := by
      simp only [lower, Verdict.ofEvidence, Verdict.votes_append_cons, negative, whole]
      rfl
    have higher_eq : higher = Confidence.ofVotes (whole.positives + 1) := by
      simp only [higher, Verdict.ofEvidence, Verdict.votes_append_cons, positive, whole]
      rfl
    rw [lower_eq, higher_eq]
    constructor
    · intro few
      rw [Confidence.rank_ofVotes, Confidence.rank_ofVotes]
      omega
    · exact fun plenty =>
        ⟨Confidence.ofVotes_of_le plenty, Confidence.ofVotes_of_le (Nat.le_succ_of_le plenty)⟩

/-- Evidence with one finding. -/
def someEvidence (technique : Technique) : Evidence := .ofFound technique ["rust"] false

/-- The fourth vote raises the confidence to the highest tier, from where the fifth does not. -/
theorem evidence_counts_alike_full :
    let three := [someEvidence .strings, someEvidence .sections, someEvidence .panics]
    let four := someEvidence .symbols :: three
    three.Perm three.reverse ∧
      Verdict.ofEvidence three.reverse = ⟨true, .high, 3, 3⟩ ∧
      (Evidence.negative .allocator).isPositive = false ∧
      (someEvidence .allocator).isPositive = true ∧
      (Verdict.ofEvidence (three ++ someEvidence .allocator :: [])).confidence.rank =
        (Verdict.ofEvidence (three ++ Evidence.negative .allocator :: [])).confidence.rank + 1 ∧
      (Verdict.ofEvidence (four ++ Evidence.negative .allocator :: [])).confidence = .veryHigh := by
  intro three four
  have negative : (Evidence.negative .allocator).isPositive = false := rfl
  have positive : (someEvidence .allocator).isPositive = true := rfl
  obtain ⟨reordered, -, -, -, -, turned⟩ := evidence_counts_alike three []
  obtain ⟨-, -, -, -, -, turnedLast⟩ := evidence_counts_alike four []
  refine ⟨three.reverse_perm.symm, reordered _ three.reverse_perm.symm, negative, positive, ?_, ?_⟩
  · exact (turned _ _ negative positive).1 (by decide)
  · exact ((turnedLast _ _ negative positive).2 (by decide)).1

end Toolmark
