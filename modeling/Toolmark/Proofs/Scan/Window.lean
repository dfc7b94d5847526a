import Toolmark.Proofs.Scan

/-!
# Windows around lines

The window of a line begins and ends within the text and holds the line. It has as many lines before
and behind the line as the radius and the ends of the text allow. A finding with a window is cut into
these lines again, so it shows an excerpt of the text and nothing else.
-/

namespace Toolmark

open Text

namespace Style

variable {all : List String} {line : String} {index : Nat}

/-! ## Bounds -/

theorem windowStart_le (index radius : Nat) : windowStart index radius ≤ index :=
  Nat.sub_le index radius

theorem lt_windowStop {count : Nat} (inRange : index < count) (radius : Nat) :
    index < windowStop count index radius := by
  rw [windowStop]
  omega

theorem windowStop_le (count index radius : Nat) : windowStop count index radius ≤ count :=
  Nat.min_le_right _ _

/-! ## Bounds in words -/

/-- The bounds of all windows in a text of some lines can be computed in words of 64 bits. -/
def Fits (style : Style) (count : Nat) : Prop :=
  match style with
  | .context radius _ => count + radius < UInt64.size
  | _ => True

/-- The index of the first line of a window, computed in words. -/
def wordStart (index radius : UInt64) : UInt64 := if index < radius then 0 else index - radius

/-- The index behind the last line of a window, computed in words. -/
def wordStop (count index radius : UInt64) : UInt64 := min (index + radius + 1) count

theorem toNat_wordStart (index radius : UInt64) :
    (wordStart index radius).toNat = windowStart index.toNat radius.toNat := by
  unfold wordStart windowStart
  split
  next below =>
    rw [UInt64.lt_iff_toNat_lt] at below
    rw [UInt64.toNat_zero, Nat.sub_eq_zero_of_le (Nat.le_of_lt below)]
  next within =>
    rw [UInt64.lt_iff_toNat_lt, Nat.not_lt, ← UInt64.le_iff_toNat_le] at within
    exact UInt64.toNat_sub_of_le _ _ within

theorem toNat_wordStop {count index radius : UInt64}
    (small : index.toNat + radius.toNat + 1 < UInt64.size) :
    (wordStop count index radius).toNat =
      windowStop count.toNat index.toNat radius.toNat := by
  have sum_eq : (index + radius + 1).toNat = index.toNat + radius.toNat + 1 := by
    rw [UInt64.toNat_add, UInt64.toNat_add, UInt64.toNat_one,
      Nat.mod_eq_of_lt (Nat.lt_of_succ_lt small), Nat.mod_eq_of_lt small]
  rw [wordStop, windowStop, ← sum_eq, UInt64.min_def, Nat.min_def, apply_ite UInt64.toNat]
  simp only [UInt64.le_iff_toNat_le]

/-- Where a style fits, the bounds of windows are those that words give. -/
theorem Fits.bounds_eq {radius count : Nat} {label : String}
    (fits : (context radius label).Fits count) (inRange : index < count) :
    (wordStart (.ofNat index) (.ofNat radius)).toNat = windowStart index radius ∧
      (wordStop (.ofNat count) (.ofNat index) (.ofNat radius)).toNat =
        windowStop count index radius := by
  have whole : count + radius < UInt64.size := fits
  have exact_ofNat {number : Nat} (small : number ≤ count + radius) :
      (UInt64.ofNat number).toNat = number :=
    UInt64.toNat_ofNat_of_lt' (Nat.lt_of_le_of_lt small whole)
  have count_eq : (UInt64.ofNat count).toNat = count := exact_ofNat (by omega)
  have index_eq : (UInt64.ofNat index).toNat = index := exact_ofNat (by omega)
  have radius_eq : (UInt64.ofNat radius).toNat = radius := exact_ofNat (by omega)
  rw [toNat_wordStart, toNat_wordStop, count_eq, index_eq, radius_eq]
  · exact ⟨rfl, rfl⟩
  · rw [index_eq, radius_eq]
    omega

/-! ## Lines of a window -/

/-- The clipping of the upper bound does not change the lines. -/
theorem window_eq_take (all : List String) (index radius : Nat) :
    window all index radius =
      (all.drop (windowStart index radius)).take
        (index + radius + 1 - windowStart index radius) := by
  rw [window, windowStop, List.take_eq_take_iff, List.length_drop]
  omega

/-- Further lines behind the last one only fill the part of a window that was clipped. -/
theorem window_append (inRange : index < all.length) (radius : Nat) (more : List String) :
    window (all ++ more) index radius =
      window all index radius ++ more.take (index + radius + 1 - all.length) := by
  have start_le := windowStart_le index radius
  have within : windowStart index radius ≤ all.length :=
    Nat.le_trans start_le (Nat.le_of_lt inRange)
  have rest_eq : index + radius + 1 - windowStart index radius -
      (all.length - windowStart index radius) = index + radius + 1 - all.length := by
    omega
  rw [window_eq_take, window_eq_take, List.drop_append_of_le_length within, List.take_append,
    List.length_drop, rest_eq]

theorem window_eq (lineAt : all[index]? = some line) (radius : Nat) :
    window all index radius =
      (all.take index).drop (windowStart index radius) ++
        line :: (all.drop (index + 1)).take radius := by
  obtain ⟨inRange, rfl⟩ := List.getElem?_eq_some_iff.mp lineAt
  have start_le := windowStart_le index radius
  have length_front : (all.take index).length = index :=
    List.length_take_of_le (Nat.le_of_lt inRange)
  have length_before :
      ((all.take index).drop (windowStart index radius)).length =
        index - windowStart index radius := by
    rw [List.length_drop, length_front]
  have fits : ((all.take index).drop (windowStart index radius)).length ≤
      index + radius + 1 - windowStart index radius := by
    omega
  have rest_eq : index + radius + 1 - windowStart index radius -
      (index - windowStart index radius) = radius + 1 := by
    omega
  have split : all = all.take index ++ all[index] :: all.drop (index + 1) := by
    rw [← List.drop_eq_getElem_cons inRange, List.take_append_drop]
  rw [window_eq_take]
  conv_lhs => rw [split]
  rw [List.drop_append_of_le_length (length_front.symm ▸ start_le), List.take_append,
    List.take_of_length_le fits, length_before, rest_eq, List.take_succ_cons]

theorem window_ne_nil (lineAt : all[index]? = some line) (radius : Nat) :
    window all index radius ≠ [] := by
  rw [window_eq lineAt]
  exact List.append_ne_nil_of_right_ne_nil _ (List.cons_ne_nil _ _)

theorem take_append_window_append_drop (inRange : index < all.length) (radius : Nat) :
    all.take (windowStart index radius) ++ window all index radius ++
      all.drop (windowStop all.length index radius) = all := by
  have ordered : windowStart index radius ≤ windowStop all.length index radius :=
    Nat.le_trans (windowStart_le index radius) (Nat.le_of_lt (lt_windowStop inRange radius))
  have behind : all.drop (windowStop all.length index radius) =
      (all.drop (windowStart index radius)).drop
        (windowStop all.length index radius - windowStart index radius) := by
    rw [List.drop_drop, Nat.add_sub_cancel' ordered]
  rw [window, behind, List.append_assoc, List.take_append_drop, List.take_append_drop]

theorem window_eq_self (inRange : index < all.length) {radius : Nat}
    (wide : all.length - 1 ≤ radius) : window all index radius = all := by
  have start_eq : windowStart index radius = 0 := by
    rw [windowStart]
    omega
  rw [window_eq_take, start_eq, List.drop_zero]
  exact List.take_of_length_le (by omega)

/-! ## Excerpts -/

/-- A text is the excerpt of another that shows a line with the lines around it. -/
structure IsExcerpt (text : String) (index radius : Nat) (line excerpt : String) : Prop where
  /-- The bounds are in order, with the line between them, and lie within the text. -/
  bounds : windowStart index radius ≤ index ∧
    index < windowStop (lines text).length index radius ∧
    windowStop (lines text).length index radius ≤ (lines text).length
  /-- The lines are those of the text from one bound to the other. -/
  exists_outside : ∃ front back, lines text = front ++ lines excerpt ++ back ∧
    front.length = windowStart index radius ∧
    (front ++ lines excerpt).length = windowStop (lines text).length index radius
  /-- The line has as many lines before and behind it as the radius and the text allow. -/
  exists_around : ∃ before after, lines excerpt = before ++ line :: after ∧
    before.length = min index radius ∧
    after.length = min radius ((lines text).length - 1 - index)
  /-- A radius of the whole text gives the whole text. -/
  eq_of_wide : (lines text).length - 1 ≤ radius → excerpt = text

theorem lines_unlines_window {text : String} (lineAt : (lines text)[index]? = some line)
    (radius : Nat) :
    lines (unlines (window (lines text) index radius)) = window (lines text) index radius := by
  refine lines_unlines (window_ne_nil lineAt radius) fun other member => ?_
  exact newline_not_mem_of_mem_lines (List.mem_of_mem_drop (List.mem_of_mem_take member))

theorem isExcerpt_window {text : String} (lineAt : (lines text)[index]? = some line)
    (radius : Nat) :
    IsExcerpt text index radius line (unlines (window (lines text) index radius)) := by
  obtain ⟨inRange, -⟩ := List.getElem?_eq_some_iff.mp lineAt
  have start_le := windowStart_le index radius
  have lt_stop := lt_windowStop inRange radius
  have stop_le := windowStop_le (lines text).length index radius
  have shown := lines_unlines_window lineAt radius
  constructor
  case bounds => exact ⟨start_le, lt_stop, stop_le⟩
  case exists_outside =>
    refine ⟨(lines text).take (windowStart index radius),
      (lines text).drop (windowStop (lines text).length index radius), ?_, ?_, ?_⟩
    · rw [shown, take_append_window_append_drop inRange]
    · exact List.length_take_of_le (by omega)
    · rw [shown, List.length_append, window, List.length_take, List.length_take, List.length_drop]
      omega
  case exists_around =>
    refine ⟨_, _, shown.trans (window_eq lineAt radius), ?_, ?_⟩
    · rw [List.length_drop, List.length_take, windowStart]
      omega
    · rw [List.length_take, List.length_drop]
      omega
  case eq_of_wide =>
    intro wide
    rw [window_eq_self inRange wide, unlines_lines]

end Style

namespace Scan

/-- A finding shows an accepted line of a text with the lines around it, below a label. -/
def ShowsExcerpt (text : String) (matcher : Matcher) (radius : Nat) (label : String) (index : Nat)
    (finding : String) : Prop :=
  ∃ line excerpt, (lines text)[index]? = some line ∧ matcher.accepts line = true ∧
    finding = label ++ ":\n" ++ excerpt ∧ Style.IsExcerpt text index radius line excerpt

variable {text line : String} {matcher : Matcher} {index : Nat}

theorem showsExcerpt_render (lineAt : (lines text)[index]? = some line)
    (accepts : matcher.accepts line = true) (radius : Nat) (label : String) :
    ShowsExcerpt text matcher radius label index
      (Style.render (lines text) index line (.context radius label)) :=
  ⟨line, _, lineAt, accepts, rfl, Style.isExcerpt_window lineAt radius⟩

theorem forall₂_showsExcerpt (text : String) (matcher : Matcher) (radius : Nat) (label : String)
    {cap : Nat} (positive : 0 < cap) :
    List.Forall₂ (ShowsExcerpt text matcher radius label)
      ((acceptedIndices matcher (lines text)).take cap)
      (run text matcher (.context radius label) cap).findings := by
  have accepted : ∀ index ∈ (acceptedIndices matcher (lines text)).take cap,
      ∃ line, (lines text)[index]? = some line ∧ matcher.accepts line = true :=
    fun index member => mem_acceptedIndices_iff.mp (List.mem_of_mem_take member)
  have rendered := rendersAt_take matcher (.context radius label) (lines text) cap
  rw [run_eq text positive]
  refine ((List.forall₂_and_left _ _).mpr ⟨accepted, rendered⟩).imp ?_
  rintro index finding ⟨⟨line, lineAt, accepts⟩, other, otherAt, rfl⟩
  obtain rfl : line = other := Option.some.inj (lineAt.symm.trans otherAt)
  exact showsExcerpt_render lineAt accepts radius label

end Scan

/-- Every accepted line of a text is rendered as a label with an excerpt, whose bounds lie within
the text and which has the lines between them, and a scan finds these excerpts for the first
accepted lines. Where the style fits the text, the bounds can be computed in words. -/
theorem context_windows_are_exact (text : String) (matcher : Matcher) (radius : Nat)
    (label : String) :
    (∀ index line, (lines text)[index]? = some line → matcher.accepts line = true →
        Scan.ShowsExcerpt text matcher radius label index
          (Style.render (lines text) index line (.context radius label))) ∧
      (∀ cap, 0 < cap →
        List.Forall₂ (Scan.ShowsExcerpt text matcher radius label)
          ((Scan.acceptedIndices matcher (lines text)).take cap)
          (Scan.run text matcher (.context radius label) cap).findings) ∧
      ((Style.context radius label).Fits (lines text).length →
        ∀ index, index < (lines text).length →
          (Style.wordStart (.ofNat index) (.ofNat radius)).toNat =
              Style.windowStart index radius ∧
            (Style.wordStop (.ofNat (lines text).length) (.ofNat index) (.ofNat radius)).toNat =
              Style.windowStop (lines text).length index radius) :=
  ⟨fun _ _ lineAt accepts => Scan.showsExcerpt_render lineAt accepts radius label,
    fun _ positive => Scan.forall₂_showsExcerpt text matcher radius label positive,
    fun fits _ inRange => fits.bounds_eq inRange⟩

/-- Two lines are accepted. The window of the first is clipped at the beginning of the text, that of
the second at its end, behind the empty last line. -/
theorem context_windows_are_exact_clipped :
    let text := "panic\n\nnop\npanic\n"
    let matcher := Matcher.ofPatterns ["panic"]
    (lines text)[0]? = some "panic" ∧ matcher.accepts "panic" = true ∧ 0 < 2 ∧
      Scan.ShowsExcerpt text matcher 2 "Found" 0 "Found:\npanic\n\nnop" ∧
      List.Forall₂ (Scan.ShowsExcerpt text matcher 2 "Found") [0, 3]
        ["Found:\npanic\n\nnop", "Found:\n\nnop\npanic\n"] ∧
      (Style.wordStart 3 2).toNat = 1 ∧ (Style.wordStop 5 3 2).toNat = 5 := by
  intro text matcher
  obtain ⟨rendered, scanned, words⟩ := context_windows_are_exact text matcher 2 "Found"
  have lineAt : (lines text)[0]? = some "panic" := by decide +kernel
  have accepts : matcher.accepts "panic" = true := by decide +kernel
  have first := rendered 0 "panic" lineAt accepts
  have all := scanned 2 (by decide)
  have render_eq : Style.render (lines text) 0 "panic" (.context 2 "Found") =
      "Found:\npanic\n\nnop" := by
    decide +kernel
  have indices_eq : (Scan.acceptedIndices matcher (lines text)).take 2 = [0, 3] := by
    decide +kernel
  have findings_eq : (Scan.run text matcher (.context 2 "Found") 2).findings =
      ["Found:\npanic\n\nnop", "Found:\n\nnop\npanic\n"] := by
    decide +kernel
  rw [render_eq] at first
  rw [indices_eq, findings_eq] at all
  have length_eq : (lines text).length = 5 := by decide +kernel
  rw [length_eq] at words
  have fits : 5 + 2 < UInt64.size := by decide
  exact ⟨lineAt, accepts, by decide, first, all, words fits 3 (by decide)⟩

end Toolmark
