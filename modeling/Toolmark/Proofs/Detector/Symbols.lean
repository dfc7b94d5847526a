import Toolmark.Proofs.Detector
import Toolmark.Proofs.Regex.Search

/-!
# Mangled names

The pattern for mangled names is a word, a stretch of the line, another word and a stretch of the
line. A word matches itself only, and a stretch matches whatever has no end of line, so the search
for the pattern finds the first word with the second one somewhere behind it in the same line.
-/

namespace Toolmark

open Text

/-! ## Sets of characters -/

namespace Text.CodeSet

theorem toNat_le_top (c : Char) : c.toNat ≤ top := by
  have valid : c.toNat < 0xD800 ∨ 0xDFFF < c.toNat ∧ c.toNat < 0x110000 := c.valid
  unfold top
  omega

theorem contains_singleton_iff {c d : Char} : (singleton c.toNat).contains d = true ↔ d = c := by
  rw [← Char.toNat_inj]
  simp only [contains, containsCode, singleton, containsCode.go, Bool.and_eq_true,
    Bool.or_false, decide_eq_true_eq]
  omega

theorem contains_complement_singleton_iff {c d : Char} :
    (singleton c.toNat).complement.contains d = true ↔ d ≠ c := by
  have least : c.toNat ≤ top := toNat_le_top c
  have other : d.toNat ≤ top := toNat_le_top d
  rw [Ne, ← Char.toNat_inj]
  simp only [contains, containsCode, complement, complementBelow, singleton, Interval.gaps]
  split <;> split <;> simp [containsCode.go] <;> omega

end Text.CodeSet

namespace Regex.Expr

open Spans

/-- A character that matches itself. -/
def letter (c : Char) : Expr := char false (CodeSet.singleton c.toNat)

/-- A word that matches itself, and then an expression. -/
def wordThen (word : List Char) (next : Expr) : Expr :=
  word.foldr (fun c next => seq (letter c) next) next

/-- Any characters but ends of lines. -/
def stretch : Expr := seq empty (star (char false (CodeSet.singleton '\n'.toNat).complement))

variable {before part after : List Char}

theorem repeats_char_iff {live : Bool} {set : CodeSet} :
    Repeats (char live set).Matches before part after ↔ ∀ c ∈ part, set.contains c = true := by
  induction part generalizing before with
  | nil => simp [Repeats.none]
  | cons c part induction =>
      rw [repeats_cons_iff, List.forall_mem_cons]
      constructor
      · rintro ⟨front, back, rfl, ⟨d, single, contains⟩, rest⟩
        obtain ⟨rfl, rfl⟩ := List.cons_eq_cons.mp single
        exact ⟨contains, induction.mp rest⟩
      · rintro ⟨contains, rest⟩
        exact ⟨[], part, rfl, ⟨c, rfl, contains⟩, induction.mpr rest⟩

theorem matches_stretch_iff : stretch.Matches before part after ↔ '\n' ∉ part := by
  have all_iff : (∀ c ∈ part, (CodeSet.singleton '\n'.toNat).complement.contains c = true) ↔
      '\n' ∉ part := by
    simp only [CodeSet.contains_complement_singleton_iff]
    exact ⟨fun all newline => all _ newline rfl,
      fun absent c member newline => absent (newline ▸ member)⟩
  rw [← all_iff]
  constructor
  · rintro ⟨front, back, rfl, rfl, repeated⟩
    exact repeats_char_iff.mp repeated
  · intro all
    exact ⟨[], part, rfl, rfl, repeats_char_iff.mpr all⟩

theorem matches_wordThen_iff {word : List Char} {next : Expr} :
    (wordThen word next).Matches before part after ↔
      ∃ back, part = word ++ back ∧ next.Matches (word.reverse ++ before) back after := by
  induction word generalizing before part with
  | nil => simp [wordThen]
  | cons c word induction =>
      have unfolded : (wordThen (c :: word) next).Matches =
          Joins (letter c).Matches (wordThen word next).Matches := rfl
      rw [unfolded]
      constructor
      · rintro ⟨front, rest, rfl, ⟨d, rfl, contains⟩, matchesRest⟩
        obtain rfl := CodeSet.contains_singleton_iff.mp contains
        obtain ⟨back, rfl, matchesNext⟩ := induction.mp matchesRest
        exact ⟨back, rfl, by simpa using matchesNext⟩
      · rintro ⟨back, rfl, matchesNext⟩
        refine ⟨[c], word ++ back, rfl, ⟨c, rfl, CodeSet.contains_singleton_iff.mpr rfl⟩, ?_⟩
        exact induction.mpr ⟨back, rfl, by simpa using matchesNext⟩

end Regex.Expr

namespace Detector

open Regex

theorem compile_symbolPattern : Regex.compile? symbolPattern.source = some symbolPattern := by
  with_unfolding_all rfl

theorem symbolPattern_expr :
    symbolPattern.expr =
      .wordThen "_ZN".toList (.seq .stretch (.wordThen "rust".toList .stretch)) := by
  with_unfolding_all rfl

/-- A match is the first word, a gap within the line, the second word and more of the line. -/
theorem matches_symbolPattern_iff {before part after : List Char} :
    symbolPattern.expr.Matches before part after ↔
      ∃ gap rest, part = "_ZN".toList ++ gap ++ "rust".toList ++ rest ∧
        '\n' ∉ gap ∧ '\n' ∉ rest := by
  rw [symbolPattern_expr, Expr.matches_wordThen_iff]
  constructor
  · rintro ⟨_, rfl, gap, _, rfl, inLine, second⟩
    obtain ⟨rest, rfl, restInLine⟩ := Expr.matches_wordThen_iff.mp second
    refine ⟨gap, rest, by simp, ?_, ?_⟩
    · exact Expr.matches_stretch_iff.mp inLine
    · exact Expr.matches_stretch_iff.mp restInLine
  · rintro ⟨gap, rest, rfl, inLine, restInLine⟩
    refine ⟨gap ++ ("rust".toList ++ rest), by simp, gap, _, rfl, ?_, ?_⟩
    · exact Expr.matches_stretch_iff.mpr inLine
    · exact Expr.matches_wordThen_iff.mpr ⟨rest, rfl, Expr.matches_stretch_iff.mpr restInLine⟩

/-- What follows the second word does not matter: a match need not reach the end of the line. -/
theorem accepts_symbols_iff (text : String) :
    symbols.matcher.accepts text = true ↔
      ∃ front gap back, text.toList = front ++ "_ZN".toList ++ gap ++ "rust".toList ++ back ∧
        '\n' ∉ gap := by
  have found_iff := Regex.matches?_iff compile_symbolPattern text
  simp only [matches_symbolPattern_iff] at found_iff
  refine found_iff.trans ?_
  constructor
  · rintro ⟨front, _, after, text_eq, gap, rest, rfl, inLine, -⟩
    exact ⟨front, gap, rest ++ after, by simp [text_eq], inLine⟩
  · rintro ⟨front, gap, back, text_eq, inLine⟩
    refine ⟨front, _, back, ?_, gap, [], rfl, inLine, List.not_mem_nil⟩
    simp [text_eq]

end Detector

/-- The built-in detector of mangled names is positive exactly if some line has the beginning of a
mangled name and the word `rust` anywhere behind it. Its pattern accepts a text, also one of several
lines, exactly if these two stand in it in this order without an end of line between them. -/
theorem symbol_names_are_recognized (text : String) :
    ((Detector.symbols.scan text).isPositive = true ↔
      ∃ line ∈ lines text, ∃ front gap back,
        line.toList = front ++ "_ZN".toList ++ gap ++ "rust".toList ++ back) ∧
    (Detector.symbols.matcher.accepts text = true ↔
      ∃ front gap back, text.toList = front ++ "_ZN".toList ++ gap ++ "rust".toList ++ back ∧
        '\n' ∉ gap) := by
  refine ⟨?_, Detector.accepts_symbols_iff text⟩
  rw [Detector.isPositive_scan_iff (by decide)]
  simp only [Detector.accepts_symbols_iff]
  constructor
  · rintro ⟨line, member, front, gap, back, line_eq, -⟩
    exact ⟨line, member, front, gap, back, line_eq⟩
  · rintro ⟨line, member, front, gap, back, line_eq⟩
    have gapInLine : '\n' ∉ gap := by
      intro newline
      refine newline_not_mem_of_mem_lines member ?_
      simp [line_eq, newline]
    exact ⟨line, member, front, gap, back, line_eq, gapInLine⟩

/-- The word has to come second, and an end of line keeps the two apart. -/
example : Detector.symbols.matcher.accepts "rust _ZN\nrust" = false := by decide +kernel

end Toolmark
