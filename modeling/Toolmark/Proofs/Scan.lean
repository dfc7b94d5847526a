import Mathlib.Data.List.Forall2
import Toolmark.Proofs.Text.Lines
import Toolmark.Scan

/-!
# What a scan finds

The accepted lines of a text, each with its index, and their findings. A scan with room for at
least one finding gives the first of these findings, and tells whether they filled its room.
-/

namespace Toolmark

open Text

namespace Scan

variable (matcher : Matcher) (style : Style)

/-- The accepted lines of a text, each with its index. -/
def accepted (lines : List String) : List (String × Nat) :=
  lines.zipIdx.filter fun line => matcher.accepts line.1

/-- The findings for all accepted lines of a text. -/
def renderings (lines : List String) : List String :=
  (accepted matcher lines).map fun line => style.render lines line.2 line.1

theorem length_renderings (lines : List String) :
    (renderings matcher style lines).length = (accepted matcher lines).length :=
  List.length_map _

theorem accepted_ne_nil_iff (lines : List String) :
    accepted matcher lines ≠ [] ↔ ∃ line ∈ lines, matcher.accepts line = true := by
  rw [accepted, Ne, List.filter_eq_nil_iff]
  constructor
  · intro some
    by_contra none
    refine some fun line member accepts => none ⟨line.1, ?_, accepts⟩
    exact List.fst_mem_of_mem_zipIdx member
  · rintro ⟨line, member, accepts⟩ none
    obtain ⟨index, inRange, rfl⟩ := List.getElem_of_mem member
    exact none (lines[index], index) (List.mk_mem_zipIdx_iff_getElem?.mpr (by simp)) accepts

variable {matcher style}

/-- The findings for the accepted lines of the rest of a text. -/
private def renderingsFrom (matcher : Matcher) (style : Style) (lines : List String)
    (index : Nat) (rest : List String) : List String :=
  ((rest.zipIdx index).filter fun line => matcher.accepts line.1).map
    fun line => style.render lines line.2 line.1

theorem resume_eq (lines found : List String) {room : Nat} (positive : 0 < room) (index : Nat)
    (rest : List String) :
    resume matcher style lines found room index rest =
      { findings := found.reverse ++ (renderingsFrom matcher style lines index rest).take room
        truncated := decide (room ≤ (renderingsFrom matcher style lines index rest).length) } := by
  induction rest generalizing found room index with
  | nil => simp [resume, renderingsFrom, Nat.not_le.mpr positive]
  | cons line rest induction =>
      cases isAccepted : matcher.accepts line with
      | false =>
          have same : renderingsFrom matcher style lines index (line :: rest) =
              renderingsFrom matcher style lines (index + 1) rest := by
            simp [renderingsFrom, isAccepted]
          simp only [resume, isAccepted, Bool.false_eq_true, if_false]
          rw [if_neg (Nat.ne_of_gt positive), induction found positive, same]
      | true =>
          have first : renderingsFrom matcher style lines index (line :: rest) =
              style.render lines index line ::
                renderingsFrom matcher style lines (index + 1) rest := by
            simp [renderingsFrom, isAccepted]
          simp only [resume, isAccepted, if_true]
          rw [first]
          obtain ⟨less, rfl⟩ : ∃ less, room = less + 1 := ⟨room - 1, by omega⟩
          cases less with
          | zero => simp
          | succ less =>
              rw [if_neg (by omega), induction _ (by omega)]
              simp

theorem findings_resume_of_quiet {rest : List String}
    (quiet : ∀ line ∈ rest, matcher.accepts line = false) (lines found : List String)
    (room index : Nat) :
    (resume matcher style lines found room index rest).findings = found.reverse := by
  induction rest generalizing index with
  | nil => rfl
  | cons line rest induction =>
      have first : matcher.accepts line = false := quiet line List.mem_cons_self
      have later : ∀ line ∈ rest, matcher.accepts line = false := fun other member =>
        quiet other (List.mem_cons_of_mem line member)
      simp only [resume, first, Bool.false_eq_true, if_false]
      split
      · rfl
      · exact induction later (index + 1)

/-- A scan gives the findings for the first accepted lines, as many as there is room for. -/
theorem run_eq (text : String) {cap : Nat} (positive : 0 < cap) :
    run text matcher style cap =
      { findings := (renderings matcher style (lines text)).take cap
        truncated := decide (cap ≤ (accepted matcher (lines text)).length) } := by
  rw [run, resume_eq _ _ positive, ← length_renderings matcher style]
  rfl

theorem length_findings_run {cap : Nat} (positive : 0 < cap) (text : String) :
    (run text matcher style cap).findings.length =
      min cap (accepted matcher (lines text)).length := by
  rw [run_eq text positive, List.length_take, length_renderings]

theorem truncated_run_iff {cap : Nat} (positive : 0 < cap) (text : String) :
    (run text matcher style cap).truncated = true ↔
      cap ≤ (accepted matcher (lines text)).length := by
  rw [run_eq text positive, decide_eq_true_iff]

/-! ## Accepted indices -/

/-- The indices of the accepted lines of a text. -/
def acceptedIndices (matcher : Matcher) (lines : List String) : List Nat :=
  (accepted matcher lines).map (·.2)

theorem length_acceptedIndices (matcher : Matcher) (lines : List String) :
    (acceptedIndices matcher lines).length = (accepted matcher lines).length :=
  List.length_map _

theorem pairwise_acceptedIndices (matcher : Matcher) (lines : List String) :
    (acceptedIndices matcher lines).Pairwise (· < ·) := by
  have all : (lines.zipIdx.map (·.2)).Pairwise (· < ·) := by
    rw [List.zipIdx_map_snd]
    exact List.pairwise_lt_range'
  exact all.sublist (List.filter_sublist.map _)

theorem mem_accepted_iff {lines : List String} {line : String} {index : Nat} :
    (line, index) ∈ accepted matcher lines ↔
      lines[index]? = some line ∧ matcher.accepts line = true := by
  rw [accepted, List.mem_filter, List.mk_mem_zipIdx_iff_getElem?]

theorem mem_acceptedIndices_iff {lines : List String} {index : Nat} :
    index ∈ acceptedIndices matcher lines ↔
      ∃ line, lines[index]? = some line ∧ matcher.accepts line = true := by
  simp only [acceptedIndices, List.mem_map, Prod.exists, exists_eq_right, mem_accepted_iff]

/-- A finding is the rendering of the line at an index. -/
def RendersAt (style : Style) (lines : List String) (index : Nat) (finding : String) : Prop :=
  ∃ line, lines[index]? = some line ∧ finding = style.render lines index line

theorem rendersAt_take (matcher : Matcher) (style : Style) (lines : List String) (cap : Nat) :
    List.Forall₂ (RendersAt style lines) ((acceptedIndices matcher lines).take cap)
      ((renderings matcher style lines).take cap) := by
  rw [acceptedIndices, renderings, ← List.map_take, ← List.map_take, List.forall₂_map_left_iff,
    List.forall₂_map_right_iff, List.forall₂_same]
  exact fun line member => ⟨line.1, (mem_accepted_iff.mp (List.mem_of_mem_take member)).1, rfl⟩

/-- Without room a scan still looks at the first line. -/
theorem run_zero {text first : String} (first_eq : (lines text)[0]? = some first) :
    run text matcher style 0 =
      { findings := if matcher.accepts first then [style.render (lines text) 0 first] else []
        truncated := true } := by
  unfold run
  generalize lines text = all at first_eq
  cases all with
  | nil => nomatch first_eq
  | cons line rest =>
      obtain rfl : line = first := Option.some.inj first_eq
      cases isAccepted : matcher.accepts line <;> simp [resume, isAccepted]

end Scan

/-- A scan with room for a finding renders the accepted lines at the first indices, as many as there
is room for, each of them once. It is truncated when the accepted lines fill the room. Without room
it looks at the first line only. Windows are taken without overflow, as of styles that fit the text
(`Style.Fits`). -/
theorem scan_renders_first_accepted (text : String) (matcher : Matcher) (style : Style) :
    let all := lines text
    unlines all = text ∧ (∀ line ∈ all, '\n' ∉ line.toList) ∧
      ∃ indices : List Nat, indices.Pairwise (· < ·) ∧
        (∀ index, index ∈ indices ↔
          ∃ line, all[index]? = some line ∧ matcher.accepts line = true) ∧
        (∀ cap, 0 < cap →
          let scan := Scan.run text matcher style cap
          List.Forall₂ (Scan.RendersAt style all) (indices.take cap) scan.findings ∧
            scan.findings.length = min cap indices.length ∧
            scan.truncated = decide (cap ≤ indices.length)) ∧
        ∃ first, all[0]? = some first ∧
          Scan.run text matcher style 0 =
            { findings := if matcher.accepts first then [style.render all 0 first] else []
              truncated := true } := by
  intro all
  refine ⟨unlines_lines text, fun line => newline_not_mem_of_mem_lines,
    Scan.acceptedIndices matcher all, Scan.pairwise_acceptedIndices matcher all,
    fun index => Scan.mem_acceptedIndices_iff, ?_, ?_⟩
  · intro cap positive scan
    have scan_eq : scan = _ := Scan.run_eq text positive
    rw [scan_eq, Scan.length_acceptedIndices]
    refine ⟨Scan.rendersAt_take matcher style all cap, ?_, rfl⟩
    rw [List.length_take, Scan.length_renderings]
  · obtain ⟨first, rest, all_eq⟩ := List.exists_cons_of_ne_nil (lines_ne_nil text)
    have first_eq : all[0]? = some first := by
      rw [show all = first :: rest from all_eq, List.getElem?_cons_zero]
    exact ⟨first, first_eq, Scan.run_zero first_eq⟩

/-- The third line fills the room, and two patterns occur in it. -/
theorem scan_renders_first_accepted_full :
    ∃ indices : List Nat,
      List.Forall₂ (Scan.RendersAt .trimmed (lines "rust\n\n RUSTC ")) (indices.take 2)
          ["rust", "RUSTC"] ∧
        0 < 2 ∧ decide (2 ≤ indices.length) = true := by
  obtain ⟨_, _, indices, _, _, capped, _⟩ :=
    scan_renders_first_accepted "rust\n\n RUSTC " (Matcher.ofPatterns ["rust", "rustc"]) .trimmed
  have scan_eq : Scan.run "rust\n\n RUSTC " (Matcher.ofPatterns ["rust", "rustc"]) .trimmed 2 =
      ⟨["rust", "RUSTC"], true⟩ := by
    decide +kernel
  obtain ⟨renders, _, truncated_eq⟩ := capped 2 (by decide)
  rw [scan_eq] at renders truncated_eq
  exact ⟨indices, renders, by decide, truncated_eq.symm⟩

end Toolmark
