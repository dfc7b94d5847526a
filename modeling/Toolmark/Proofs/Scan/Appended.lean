import Toolmark.Proofs.Scan.Window

/-!
# Text with further lines behind it

The accepted lines of a text stay accepted at their indices when further lines follow, and those of
the further lines come behind them. A finding can only grow, and only if its window reached the end
of the text. So a scan of the longer text goes on where the scan of the shorter one ended, in the room
that was left.
-/

namespace Toolmark

open Text

namespace Style

variable {all : List String} {index : Nat}

/-- The window of a line goes on behind the last of a number of lines. -/
def ReachesBehind (count index : Nat) : Style → Prop
  | context radius _ => count ≤ index + radius
  | _ => False

/-- A finding goes on behind another, or is the same if the window ended within a number of lines. -/
structure Extends (style : Style) (count index : Nat) (finding longer : String) : Prop where
  exists_rest : ∃ rest, longer = finding ++ rest
  eq_of_within : ¬style.ReachesBehind count index → longer = finding

/-- Further lines extend the finding for a line at most. -/
theorem extends_render (style : Style) {line : String} (lineAt : all[index]? = some line)
    (more : List String) :
    style.Extends all.length index (style.render all index line)
      (style.render (all ++ more) index line) := by
  cases style with
  | verbatim | trimmed => exact ⟨⟨"", by simp [render]⟩, fun _ => rfl⟩
  | context radius label =>
      obtain ⟨inRange, -⟩ := List.getElem?_eq_some_iff.mp lineAt
      obtain ⟨rest, unlines_eq, rest_eq⟩ := exists_unlines_append (window_ne_nil lineAt radius)
        (more.take (index + radius + 1 - all.length))
      rw [← window_append inRange] at unlines_eq
      have longer_eq : render (all ++ more) index line (.context radius label) =
          render all index line (.context radius label) ++ rest := by
        simp only [render, unlines_eq, String.append_assoc]
      refine ⟨⟨rest, longer_eq⟩, fun within => ?_⟩
      have clipped : index + radius + 1 - all.length = 0 := by
        have below := Nat.not_le.mp within
        omega
      rw [longer_eq, rest_eq (by rw [clipped, List.take_zero]), String.append_empty]

theorem render_congr {style : Style} (alone : style = .verbatim ∨ style = .trimmed)
    (all other : List String) (index otherIndex : Nat) (line : String) :
    style.render all index line = style.render other otherIndex line := by
  rcases alone with rfl | rfl <;> rfl

end Style

namespace Scan

variable (matcher : Matcher) (style : Style) (front rest : List String)

/-! ## Accepted lines -/

theorem accepted_append :
    accepted matcher (front ++ rest) =
      accepted matcher front ++
        (accepted matcher rest).map fun line => (line.1, front.length + line.2) := by
  have shifted : rest.zipIdx front.length =
      rest.zipIdx.map fun line => (line.1, front.length + line.2) :=
    List.zipIdx_eq_map_add
  rw [accepted, List.zipIdx_append, List.filter_append, Nat.zero_add, shifted, List.filter_map]
  rfl

/-- The findings for the accepted lines of a text, when further lines follow. -/
def renderingsBefore : List String :=
  (accepted matcher front).map fun line => style.render (front ++ rest) line.2 line.1

/-- The findings for the accepted lines that follow a text. -/
def renderingsBehind : List String :=
  (accepted matcher rest).map fun line =>
    style.render (front ++ rest) (front.length + line.2) line.1

theorem renderings_append :
    renderings matcher style (front ++ rest) =
      renderingsBefore matcher style front rest ++ renderingsBehind matcher style front rest := by
  rw [renderings, accepted_append, List.map_append, List.map_map]
  rfl

theorem length_renderingsBefore :
    (renderingsBefore matcher style front rest).length = (accepted matcher front).length :=
  List.length_map _

variable {matcher style front rest}

theorem exists_extends {position : Nat} {finding : String}
    (found : (renderings matcher style front)[position]? = some finding) (rest : List String) :
    ∃ index longer, (acceptedIndices matcher front)[position]? = some index ∧
      RendersAt style front index finding ∧
      (renderingsBefore matcher style front rest)[position]? = some longer ∧
      style.Extends front.length index finding longer := by
  rw [renderings, List.getElem?_map, Option.map_eq_some_iff] at found
  obtain ⟨⟨line, index⟩, atPosition, rfl⟩ := found
  have lineAt : front[index]? = some line :=
    (mem_accepted_iff.mp (List.mem_of_getElem? atPosition)).1
  refine ⟨index, _, ?_, ⟨line, lineAt, rfl⟩, ?_, style.extends_render lineAt rest⟩
  · rw [acceptedIndices, List.getElem?_map, atPosition, Option.map_some]
  · rw [renderingsBefore, List.getElem?_map, atPosition, Option.map_some]

theorem rendersAt_renderingsBehind (matcher : Matcher) (style : Style) (front rest : List String)
    (room : Nat) :
    List.Forall₂ (fun index => RendersAt style (front ++ rest) (front.length + index))
      ((acceptedIndices matcher rest).take room)
      ((renderingsBehind matcher style front rest).take room) := by
  rw [acceptedIndices, renderingsBehind, ← List.map_take, ← List.map_take,
    List.forall₂_map_left_iff, List.forall₂_map_right_iff, List.forall₂_same]
  intro line member
  have lineAt := (mem_accepted_iff.mp (List.mem_of_mem_take member)).1
  refine ⟨line.1, ?_, rfl⟩
  rw [List.getElem?_append_right (Nat.le_add_right _ _), Nat.add_sub_cancel_left, lineAt]

/-- Without windows the findings behind a text are those for the further lines alone. -/
theorem renderingsBehind_eq (alone : style = .verbatim ∨ style = .trimmed) :
    renderingsBehind matcher style front rest = renderings matcher style rest :=
  List.map_congr_left fun line _ => style.render_congr alone _ _ _ _ line.1

/-! ## Runs -/

section

variable {cap : Nat} (positive : 0 < cap) (text more : String)

include positive

/-- A scan with room for a finding gives those for the text first, and then those behind it. -/
theorem run_append :
    let count := (accepted matcher (lines text)).length
    run (text ++ "\n" ++ more) matcher style cap =
      { findings := (renderingsBefore matcher style (lines text) (lines more)).take cap ++
          (renderingsBehind matcher style (lines text) (lines more)).take (cap - count)
        truncated := decide (cap ≤ count + (accepted matcher (lines more)).length) } := by
  intro count
  have length_eq : (accepted matcher (lines (text ++ "\n" ++ more))).length =
      count + (accepted matcher (lines more)).length := by
    rw [lines_append_newline, accepted_append, List.length_append, List.length_map]
  rw [run_eq _ positive, length_eq, lines_append_newline, renderings_append, List.take_append,
    length_renderingsBefore]

theorem exists_extends_run {position : Nat} {finding : String}
    (found : (run text matcher style cap).findings[position]? = some finding) :
    ∃ index longer, (acceptedIndices matcher (lines text))[position]? = some index ∧
      RendersAt style (lines text) index finding ∧
      (run (text ++ "\n" ++ more) matcher style cap).findings[position]? = some longer ∧
      style.Extends (lines text).length index finding longer := by
  rw [run_eq text positive, List.getElem?_take, Option.ite_none_right_eq_some] at found
  obtain ⟨inRange, found⟩ := found
  obtain ⟨index, longer, atPosition, renders, foundLonger, isExtended⟩ :=
    exists_extends found (lines more)
  refine ⟨index, longer, atPosition, renders, ?_, isExtended⟩
  rw [← List.getElem?_take_of_lt inRange] at foundLonger
  obtain ⟨withinFirst, -⟩ := List.getElem?_eq_some_iff.mp foundLonger
  rw [run_append positive, List.getElem?_append_left withinFirst, foundLonger]

theorem drop_findings_run_append (spare : (accepted matcher (lines text)).length < cap) :
    (run (text ++ "\n" ++ more) matcher style cap).findings.drop
        (run text matcher style cap).findings.length =
      (renderingsBehind matcher style (lines text) (lines more)).take
        (cap - (run text matcher style cap).findings.length) := by
  have length_eq : (run text matcher style cap).findings.length = _ :=
    length_findings_run positive text
  have length_before :
      ((renderingsBefore matcher style (lines text) (lines more)).take cap).length =
        (run text matcher style cap).findings.length := by
    rw [List.length_take, length_renderingsBefore, length_eq]
  rw [Nat.min_eq_right (Nat.le_of_lt spare)] at length_eq
  rw [run_append positive, ← length_eq]
  exact List.drop_left' length_before

end

end Scan

/-- A text with further lines behind it has at least the findings of the text. Each of them stands
at its place and is the same, or goes on if its window reached the end of the text. If the scan of
the text was truncated, so is that of the longer one, and nothing is added. Otherwise the findings
for the further lines are added while there is room, and without windows these are the findings of a
scan of the further lines alone. Windows are taken without overflow, as of styles that fit the text
(`Style.Fits`). -/
theorem appended_output_extends_findings (text more : String) (matcher : Matcher) (style : Style)
    {cap : Nat} (positive : 0 < cap) :
    let first := Scan.run text matcher style cap
    let whole := Scan.run (text ++ "\n" ++ more) matcher style cap
    let room := cap - first.findings.length
    let added := whole.findings.drop first.findings.length
    first.findings.length ≤ whole.findings.length ∧
      (∀ (position : Nat) (finding : String), first.findings[position]? = some finding →
        ∃ index longer, (Scan.acceptedIndices matcher (lines text))[position]? = some index ∧
          Scan.RendersAt style (lines text) index finding ∧
          whole.findings[position]? = some longer ∧
          style.Extends (lines text).length index finding longer) ∧
      (first.truncated = true →
        whole.truncated = true ∧ whole.findings.length = first.findings.length) ∧
      (first.truncated = false → 0 < room ∧
        List.Forall₂
          (fun index finding =>
            Scan.RendersAt style (lines (text ++ "\n" ++ more)) ((lines text).length + index)
              finding)
          ((Scan.acceptedIndices matcher (lines more)).take room) added ∧
        whole.truncated = (Scan.run more matcher style room).truncated ∧
        (style = .verbatim ∨ style = .trimmed →
          added = (Scan.run more matcher style room).findings)) := by
  intro first whole room added
  have length_first : first.findings.length = _ := Scan.length_findings_run positive text
  have length_whole : whole.findings.length = _ := Scan.length_findings_run positive _
  have whole_truncated_iff : whole.truncated = true ↔ _ := Scan.truncated_run_iff positive _
  rw [lines_append_newline, Scan.accepted_append, List.length_append, List.length_map]
    at length_whole whole_truncated_iff
  refine ⟨by omega, fun _ _ => Scan.exists_extends_run positive text more, fun full => ?_,
    fun spare => ?_⟩
  · have full := (Scan.truncated_run_iff positive text).mp full
    exact ⟨whole_truncated_iff.mpr (by omega), by omega⟩
  · have spare := Nat.not_le.mp
      (mt (Scan.truncated_run_iff positive text).mpr (ne_true_of_eq_false spare))
    have hasRoom : 0 < room := by
      omega
    have added_eq : added = _ := Scan.drop_findings_run_append positive text more spare
    rw [added_eq, lines_append_newline]
    refine ⟨hasRoom, Scan.rendersAt_renderingsBehind matcher style _ _ room, ?_, fun alone => ?_⟩
    · rw [Bool.eq_iff_iff, whole_truncated_iff, Scan.truncated_run_iff hasRoom]
      omega
    · rw [Scan.run_eq more hasRoom, Scan.renderingsBehind_eq alone]

/-- The window of the only accepted line reaches the end of the text, so its finding goes on in the
first of the further lines, and the last room is filled by one of two further accepted lines. -/
theorem appended_output_extends_findings_clipped :
    let matcher := Matcher.ofPatterns ["panic"]
    let style := Style.context 1 "Found"
    let first := Scan.run "nop\npanic" matcher style 2
    let whole := Scan.run ("nop\npanic" ++ "\n" ++ "ret\nPANIC\nend\npanic") matcher style 2
    0 < 2 ∧ first = ⟨["Found:\nnop\npanic"], false⟩ ∧
      whole = ⟨["Found:\nnop\npanic\nret", "Found:\nret\nPANIC\nend"], true⟩ ∧
      style.ReachesBehind 2 1 ∧
      style.Extends 2 1 "Found:\nnop\npanic" "Found:\nnop\npanic\nret" ∧
      List.Forall₂
        (fun index finding =>
          Scan.RendersAt style (lines ("nop\npanic" ++ "\n" ++ "ret\nPANIC\nend\npanic"))
            (2 + index) finding)
        [1] ["Found:\nret\nPANIC\nend"] := by
  intro matcher style first whole
  have first_eq : first = ⟨["Found:\nnop\npanic"], false⟩ := by decide +kernel
  have whole_eq : whole = ⟨["Found:\nnop\npanic\nret", "Found:\nret\nPANIC\nend"], true⟩ := by
    decide +kernel
  have count_eq : (lines "nop\npanic").length = 2 := by decide +kernel
  have index_eq : (Scan.acceptedIndices matcher (lines "nop\npanic"))[0]? = some 1 := by
    decide +kernel
  have further_eq :
      (Scan.acceptedIndices matcher (lines "ret\nPANIC\nend\npanic")).take 1 = [1] := by
    decide +kernel
  obtain ⟨_, stays, _, goesOn⟩ := appended_output_extends_findings "nop\npanic"
    "ret\nPANIC\nend\npanic" matcher style (show 0 < 2 by decide)
  rw [show Scan.run "nop\npanic" matcher style 2 = _ from first_eq] at stays goesOn
  rw [show Scan.run ("nop\npanic" ++ "\n" ++ "ret\nPANIC\nend\npanic") matcher style 2 = _ from
    whole_eq] at stays goesOn
  rw [count_eq] at stays goesOn
  obtain ⟨index, longer, atPosition, _, found, isExtended⟩ := stays 0 "Found:\nnop\npanic" rfl
  obtain rfl : 1 = index := Option.some.inj (index_eq.symm.trans atPosition)
  obtain rfl : "Found:\nnop\npanic\nret" = longer := Option.some.inj found
  obtain ⟨_, renders, _⟩ := goesOn rfl
  exact ⟨by decide, first_eq, whole_eq, Nat.le_refl 2, isExtended, further_eq ▸ renders⟩

end Toolmark
