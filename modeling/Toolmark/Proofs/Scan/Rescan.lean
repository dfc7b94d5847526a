import Toolmark.Proofs.Detector
import Toolmark.Proofs.Scan.Window

/-!
# Findings scanned again

Verbatim findings are accepted lines of a text. Joined again, they have no other lines, so a second
scan finds all of them and nothing else, unless there are none: no findings are joined to one empty
line, which may be accepted. A single finding, verbatim or with the lines around it, keeps its line
as a whole line, so it is found again as well.
-/

namespace Toolmark

open Text

namespace Scan

variable {matcher : Matcher} {cap : Nat}

/-! ## Verbatim findings -/

theorem renderings_verbatim (matcher : Matcher) (all : List String) :
    renderings matcher .verbatim all = all.filter fun line => matcher.accepts line := by
  calc
    renderings matcher .verbatim all =
        (all.zipIdx.filter fun line => matcher.accepts line.1).map Prod.fst := rfl
    _ = (all.zipIdx.map Prod.fst).filter fun line => matcher.accepts line := by
      rw [List.filter_map]
      rfl
    _ = all.filter fun line => matcher.accepts line := by
      rw [List.zipIdx_map_fst]

theorem run_verbatim (text : String) (positive : 0 < cap) :
    run text matcher .verbatim cap =
      { findings := ((lines text).filter fun line => matcher.accepts line).take cap
        truncated :=
          decide (cap ≤ ((lines text).filter fun line => matcher.accepts line).length) } := by
  rw [run_eq text positive, ← length_renderings matcher .verbatim, renderings_verbatim]

theorem run_unlines_of_accepted {found : List String} (nonempty : found ≠ [])
    (isLine : ∀ line ∈ found, '\n' ∉ line.toList)
    (accepts : ∀ line ∈ found, matcher.accepts line = true) (positive : 0 < cap) :
    run (unlines found) matcher .verbatim cap =
      { findings := found.take cap, truncated := decide (cap ≤ found.length) } := by
  have all_accepted : (found.filter fun line => matcher.accepts line) = found :=
    List.filter_eq_self.mpr accepts
  rw [run_verbatim _ positive, lines_unlines nonempty isLine, all_accepted]

/-- Some findings, joined and scanned again, are found again and leave as much room. -/
theorem run_unlines_findings {text : String} (positive : 0 < cap)
    (nonempty : (run text matcher .verbatim cap).findings ≠ []) :
    run (unlines (run text matcher .verbatim cap).findings) matcher .verbatim cap =
      run text matcher .verbatim cap := by
  rw [run_verbatim text positive] at nonempty ⊢
  have found_line {line : String}
      (member : line ∈ ((lines text).filter fun line => matcher.accepts line).take cap) :
      '\n' ∉ line.toList ∧ matcher.accepts line = true := by
    obtain ⟨inText, accepts⟩ := List.mem_filter.mp (List.mem_of_mem_take member)
    exact ⟨newline_not_mem_of_mem_lines inText, accepts⟩
  have full_iff : cap ≤ min cap ((lines text).filter fun line => matcher.accepts line).length ↔
      cap ≤ ((lines text).filter fun line => matcher.accepts line).length := by
    omega
  rw [run_unlines_of_accepted nonempty (fun _ member => (found_line member).1)
    (fun _ member => (found_line member).2) positive]
  simp only [List.take_take, Nat.min_self, List.length_take, full_iff]

theorem run_unlines_of_findings_eq_nil {text : String} (positive : 0 < cap)
    (none : (run text matcher .verbatim cap).findings = []) :
    run (unlines (run text matcher .verbatim cap).findings) matcher .verbatim cap =
        run text matcher .verbatim cap ↔
      matcher.accepts "" = false := by
  have one_line : lines (unlines []) = [""] := rfl
  rw [run_verbatim text positive] at none ⊢
  have no_line : ((lines text).filter fun line => matcher.accepts line) = [] :=
    (List.take_eq_nil_iff.mp none).resolve_left (Nat.ne_of_gt positive)
  rw [no_line, List.take_nil, run_verbatim _ positive, one_line]
  cases accepted : matcher.accepts "" with
  | false => simp [accepted]
  | true => simp [accepted, Nat.ne_of_gt positive]

end Scan

/-! ## Single findings -/

namespace Style

/-- The line of a finding stands in it as a whole line, whatever the label and the other lines. -/
theorem mem_lines_render {style : Style} (whole : style ≠ .trimmed) {text line : String}
    {index : Nat} (lineAt : (lines text)[index]? = some line) :
    line ∈ lines (style.render (lines text) index line) := by
  cases style with
  | verbatim =>
      have absent : '\n' ∉ line.toList :=
        newline_not_mem_of_mem_lines (List.mem_of_getElem? lineAt)
      have alone : lines line = [line] := by
        simp [lines, segments_of_not_mem absent]
      rw [render, alone]
      exact List.mem_singleton_self line
  | trimmed => exact absurd rfl whole
  | context radius label =>
      have cut : lines (label ++ ":\n" ++ unlines (window (lines text) index radius)) =
          lines (label ++ ":") ++ window (lines text) index radius := by
        rw [show label ++ ":\n" = label ++ ":" ++ "\n" by rw [String.append_assoc]; rfl,
          lines_append_newline, lines_unlines_window lineAt radius]
      rw [render, cut, window_eq lineAt radius]
      simp

end Style

theorem Detector.isPositive_scan_finding {detector : Detector} (positive : 0 < detector.cap)
    (whole : detector.style ≠ .trimmed) {text finding : String}
    (found : finding ∈ (Scan.run text detector.matcher detector.style detector.cap).findings) :
    (detector.scan finding).isPositive = true := by
  rw [Scan.run_eq text positive] at found
  obtain ⟨⟨line, index⟩, member, rfl⟩ := List.mem_map.mp (List.mem_of_mem_take found)
  obtain ⟨lineAt, accepts⟩ := Scan.mem_accepted_iff.mp member
  rw [isPositive_scan_iff positive]
  exact ⟨line, Style.mem_lines_render whole lineAt, accepts⟩

/-- Verbatim findings, joined and scanned again, give the same findings and the same truncation,
unless there are none and the empty line is accepted. Every single finding that is not trimmed is
evidence for the same detector. Windows are taken without overflow, as of styles that fit the text
(`Style.Fits`). -/
theorem findings_are_found_again (detector : Detector) (positive : 0 < detector.cap)
    (text : String) :
    let scan := fun text => Scan.run text detector.matcher detector.style detector.cap
    (detector.style = .verbatim → (scan text).findings ≠ [] →
        scan (unlines (scan text).findings) = scan text) ∧
      (detector.style = .verbatim → (scan text).findings = [] →
        (scan (unlines (scan text).findings) = scan text ↔
          detector.matcher.accepts "" = false)) ∧
      (detector.style ≠ .trimmed →
        ∀ finding ∈ (scan text).findings, (detector.scan finding).isPositive = true) := by
  intro scan
  refine ⟨fun verbatim => ?_, fun verbatim => ?_, fun whole finding found => ?_⟩
  · simp only [scan, verbatim]
    exact Scan.run_unlines_findings positive
  · simp only [scan, verbatim]
    exact Scan.run_unlines_of_findings_eq_nil positive
  · exact detector.isPositive_scan_finding positive whole found

/-- Two of three accepted lines fill the room, and joined again they fill it. A finding whose label
has lines of its own is found again by its fourth line. -/
theorem findings_are_found_again_labelled :
    let matcher := Matcher.ofPatterns ["panic"]
    let verbatim : Detector := ⟨.panics, ⟨"objdump", ["-d"]⟩, matcher, .verbatim, 2⟩
    let labelled : Detector := { verbatim with style := .context 1 "Found\nhere" }
    let text := "nop\nPANIC\n\npanic\ncall panic"
    0 < 2 ∧ Scan.run text matcher .verbatim 2 = ⟨["PANIC", "panic"], true⟩ ∧
      Scan.run "PANIC\npanic" matcher .verbatim 2 = ⟨["PANIC", "panic"], true⟩ ∧
      labelled.style ≠ .trimmed ∧
      "Found\nhere:\nnop\nPANIC\n" ∈ (Scan.run text matcher labelled.style 2).findings ∧
      (labelled.scan "Found\nhere:\nnop\nPANIC\n").isPositive = true := by
  intro matcher verbatim labelled text
  have scan_eq : Scan.run text matcher .verbatim 2 = ⟨["PANIC", "panic"], true⟩ := by
    decide +kernel
  have whole : labelled.style ≠ .trimmed := Style.noConfusion
  have found : "Found\nhere:\nnop\nPANIC\n" ∈
      (Scan.run text matcher labelled.style 2).findings := by
    decide +kernel
  obtain ⟨joined, -, -⟩ := findings_are_found_again verbatim (by decide) text
  obtain ⟨-, -, single⟩ := findings_are_found_again labelled (by decide) text
  have nonempty : (Scan.run text matcher .verbatim 2).findings ≠ [] := by
    rw [scan_eq]
    exact List.cons_ne_nil _ _
  have again : Scan.run (unlines (Scan.run text matcher .verbatim 2).findings) matcher .verbatim 2 =
      Scan.run text matcher .verbatim 2 :=
    joined rfl nonempty
  rw [scan_eq] at again
  exact ⟨by decide, scan_eq, again, whole, found, single whole _ found⟩

/-- A trimmed finding may lose the blank that a text begins with. -/
example :
    let matcher := Matcher.ofPatterns [" rust"]
    Scan.run "in rust\n rust" matcher .trimmed 5 = ⟨["in rust", "rust"], false⟩ ∧
      Scan.run "rust" matcher .trimmed 5 = ⟨[], false⟩ := by
  decide +kernel

end Toolmark
