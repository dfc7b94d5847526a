import Mathlib.Data.List.Basic
import Toolmark.Text.Lines

/-!
# Cutting at a separator

A list without the separator is its own only segment, and a separator behind such a list ends the
first segment. These two equations determine `segments`, so everything else about segments and
lines follows by the induction principle that they give.
-/

namespace Toolmark.Text

section Segments

variable {α : Type} [DecidableEq α] {separator : α}

/-- A list either is one segment or begins with a segment and a separator. -/
@[elab_as_elim]
theorem segments_induction (separator : α) {motive : List α → Prop} (xs : List α)
    (single : ∀ xs, separator ∉ xs → motive xs)
    (split : ∀ front rest, separator ∉ front → motive rest → motive (front ++ separator :: rest)) :
    motive xs := by
  by_cases present : separator ∈ xs
  · obtain ⟨front, rest, equality, absent⟩ := List.eq_append_cons_of_mem present
    have shorter : rest.length < xs.length := by
      rw [equality, List.length_append, List.length_cons]
      omega
    rw [equality]
    exact split front rest absent (segments_induction separator rest single split)
  · exact single xs present
termination_by xs.length

theorem segments_ne_nil (separator : α) (xs : List α) : segments separator xs ≠ [] := by
  cases xs with
  | nil => simp [segments]
  | cons x xs =>
      simp only [segments, List.foldr_cons, consSegment]
      split <;> split <;> simp

theorem segments_of_not_mem {xs : List α} (absent : separator ∉ xs) :
    segments separator xs = [xs] := by
  induction xs with
  | nil => rfl
  | cons x xs induction =>
      obtain ⟨distinct, absentRest⟩ := not_or.mp (mt List.mem_cons.mpr absent)
      have tail : xs.foldr (consSegment separator) [[]] = [xs] := induction absentRest
      simp [segments, tail, consSegment, Ne.symm distinct]

theorem segments_append_cons {front : List α} (absent : separator ∉ front) (rest : List α) :
    segments separator (front ++ separator :: rest) = front :: segments separator rest := by
  induction front with
  | nil =>
      obtain ⟨segment, others, equality⟩ :=
        List.exists_cons_of_ne_nil (segments_ne_nil separator rest)
      simp only [segments] at equality
      simp [segments, equality, consSegment]
  | cons x front induction =>
      obtain ⟨distinct, absentRest⟩ := not_or.mp (mt List.mem_cons.mpr absent)
      have tail := induction absentRest
      simp only [segments] at tail
      simp [segments, tail, consSegment, Ne.symm distinct]

/-- A separator anywhere cuts the segments of its front from those of its rest. -/
theorem segments_append_separator (front rest : List α) :
    segments separator (front ++ separator :: rest) =
      segments separator front ++ segments separator rest := by
  induction front using segments_induction separator with
  | single front absent =>
      rw [segments_append_cons absent, segments_of_not_mem absent, List.singleton_append]
  | split first later absent induction =>
      rw [List.append_assoc, List.cons_append, segments_append_cons absent,
        segments_append_cons absent, induction, List.cons_append]

omit [DecidableEq α] in
theorem infix_front_or_rest {part front rest : List α} (absent : separator ∉ part)
    (occurs : part <:+: front ++ separator :: rest) : part <:+: front ∨ part <:+: rest := by
  obtain ⟨before, after, equality⟩ := occurs
  obtain ⟨gap, front_eq, -⟩ | ⟨gap, upTo_eq, behind_eq⟩ := List.append_eq_append_iff.mp equality
  · exact .inl ⟨before, gap, front_eq.symm⟩
  · cases gap with
    | nil => exact .inl ⟨before, [], by simpa using upTo_eq⟩
    | cons x gap =>
        obtain ⟨rfl, rest_eq⟩ := List.cons_eq_cons.mp behind_eq
        obtain ⟨left, -, part_eq⟩ | ⟨left, -, gap_eq⟩ := List.append_eq_append_iff.mp upTo_eq
        · exact absurd (by simp [part_eq]) absent
        · cases left with
          | nil =>
              have part_eq : separator :: gap = part := gap_eq
              exact absurd (part_eq ▸ List.mem_cons_self) absent
          | cons y left =>
              obtain ⟨-, rfl⟩ := List.cons_eq_cons.mp gap_eq
              exact .inr ⟨left, after, rest_eq.symm⟩

/-- A part without the separator lies within one segment. -/
theorem exists_segment_of_infix {part xs : List α} (absent : separator ∉ part)
    (occurs : part <:+: xs) : ∃ segment ∈ segments separator xs, part <:+: segment := by
  induction xs using segments_induction separator with
  | single xs absentWhole =>
      exact ⟨xs, by simp [segments_of_not_mem absentWhole], occurs⟩
  | split front rest absentFront induction =>
      rw [segments_append_cons absentFront]
      obtain inFront | inRest := infix_front_or_rest absent occurs
      · exact ⟨front, List.mem_cons_self, inFront⟩
      · obtain ⟨segment, member, within⟩ := induction inRest
        exact ⟨segment, List.mem_cons_of_mem front member, within⟩

theorem intercalate_segments (separator : α) (xs : List α) :
    [separator].intercalate (segments separator xs) = xs := by
  induction xs using segments_induction separator with
  | single xs absent => rw [segments_of_not_mem absent, List.intercalate_singleton]
  | split front rest absent induction =>
      obtain ⟨segment, others, equality⟩ :=
        List.exists_cons_of_ne_nil (segments_ne_nil separator rest)
      rw [equality] at induction
      rw [segments_append_cons absent, equality, List.intercalate_cons_cons, induction,
        List.append_assoc, List.singleton_append]

theorem segments_intercalate {blocks : List (List α)} (nonempty : blocks ≠ [])
    (absent : ∀ block ∈ blocks, separator ∉ block) :
    segments separator ([separator].intercalate blocks) = blocks := by
  induction blocks with
  | nil => exact absurd rfl nonempty
  | cons block rest induction =>
      have first : separator ∉ block := absent block List.mem_cons_self
      cases rest with
      | nil => rw [List.intercalate_singleton, segments_of_not_mem first]
      | cons next rest =>
          have later := induction (List.cons_ne_nil next rest) fun other member =>
            absent other (List.mem_cons_of_mem block member)
          rw [List.intercalate_cons_cons, List.append_assoc, List.singleton_append,
            segments_append_cons first, later]

theorem not_mem_of_mem_segments {segment xs : List α} (member : segment ∈ segments separator xs) :
    separator ∉ segment := by
  induction xs using segments_induction separator with
  | single xs absent =>
      rw [segments_of_not_mem absent, List.mem_singleton] at member
      exact member ▸ absent
  | split front rest absent induction =>
      rw [segments_append_cons absent, List.mem_cons] at member
      rcases member with rfl | later
      · exact absent
      · exact induction later

/-- Blocks that are closed by separators are cut into these blocks and an empty one behind them. -/
theorem segments_flatMap_closed {blocks : List (List α)}
    (absent : ∀ block ∈ blocks, separator ∉ block) :
    segments separator (blocks.flatMap fun block => block ++ [separator]) = blocks ++ [[]] := by
  induction blocks with
  | nil => rfl
  | cons block rest induction =>
      have first : separator ∉ block := absent block List.mem_cons_self
      have later := induction fun other member => absent other (List.mem_cons_of_mem block member)
      rw [List.flatMap_cons, List.append_assoc, List.singleton_append, segments_append_cons first,
        later, List.cons_append]

/-- Blocks without the separator are determined by what they are when closed by separators. -/
theorem eq_of_flatMap_closed_eq {left right : List (List α)}
    (absentLeft : ∀ block ∈ left, separator ∉ block)
    (absentRight : ∀ block ∈ right, separator ∉ block)
    (same : left.flatMap (fun block => block ++ [separator]) =
      right.flatMap fun block => block ++ [separator]) : left = right := by
  have cut := congrArg (segments separator) same
  rw [segments_flatMap_closed absentLeft, segments_flatMap_closed absentRight] at cut
  exact List.append_cancel_right cut

end Segments

/-! ## Lines of a text -/

theorem lines_ne_nil (text : String) : lines text ≠ [] :=
  mt List.map_eq_nil_iff.mp (segments_ne_nil '\n' text.toList)

theorem unlines_lines (text : String) : unlines (lines text) = text := by
  apply String.toList_injective
  have characters : (lines text).map String.toList = segments '\n' text.toList := by
    simp [lines, Function.comp_def]
  rw [unlines, String.toList_intercalate, characters]
  exact intercalate_segments '\n' text.toList

theorem lines_unlines {texts : List String} (nonempty : texts ≠ [])
    (isLine : ∀ text ∈ texts, '\n' ∉ text.toList) : lines (unlines texts) = texts := by
  have joined : (unlines texts).toList = ['\n'].intercalate (texts.map String.toList) := by
    rw [unlines, String.toList_intercalate]
    rfl
  have characters : segments '\n' (unlines texts).toList = texts.map String.toList := by
    rw [joined]
    exact segments_intercalate (mt List.map_eq_nil_iff.mp nonempty) (List.forall_mem_map.mpr isLine)
  simp [lines, characters]

theorem exists_unlines_append {front : List String} (nonempty : front ≠ [])
    (more : List String) :
    ∃ rest, unlines (front ++ more) = unlines front ++ rest ∧ (more = [] → rest = "") := by
  cases more with
  | nil => exact ⟨"", by simp, fun _ => rfl⟩
  | cons next more =>
      refine ⟨"\n" ++ unlines (next :: more), ?_, fun none => nomatch none⟩
      rw [unlines, String.intercalate_append_of_ne_nil nonempty (List.cons_ne_nil next more),
        String.append_assoc]
      rfl

theorem lines_append_newline (front rest : String) :
    lines (front ++ "\n" ++ rest) = lines front ++ lines rest := by
  have characters : (front ++ "\n" ++ rest).toList = front.toList ++ '\n' :: rest.toList := by
    simp
  simp [lines, characters, segments_append_separator]

theorem newline_not_mem_of_mem_lines {text line : String} (member : line ∈ lines text) :
    '\n' ∉ line.toList := by
  obtain ⟨segment, inSegments, rfl⟩ := List.mem_map.mp member
  rw [String.toList_ofList]
  exact not_mem_of_mem_segments inSegments

end Toolmark.Text
