import Mathlib.Data.List.Forall2
import Toolmark.Matcher
import Toolmark.Proofs.Text.LetterCase

/-!
# What a fingerprint set accepts

A line is accepted when the lower case of some pattern occurs in the lower case of the line. The
case of letters below 128 does not matter, so a pattern below 128 is met in any case. Every other
pattern is met where it occurs as written, unless it has a capital sigma that ends a word in the
pattern and not in the line, or the other way round, as the lower case of a sigma depends on that.
-/

namespace Toolmark

open Text

namespace Matcher

theorem occursIn_iff {α : Type} [BEq α] [LawfulBEq α] (part xs : List α) :
    occursIn part xs = true ↔ part <:+: xs := by
  induction xs with
  | nil => simp [occursIn]
  | cons x xs induction =>
      rw [occursIn, Bool.or_eq_true, List.isPrefixOf_iff_prefix, induction, List.infix_cons_iff]

theorem accepts_substrings_iff (stored : List String) (line : String) :
    (substrings stored).accepts line = true ↔
      ∃ pattern ∈ stored, pattern.toList <:+: (lowercase line).toList := by
  simp [accepts, occursIn_iff]

/-- A pattern below 128 is met by every line that holds it in any case. -/
theorem accepts_of_ascii {patterns : List String} {pattern line : String} {part : List Char}
    (member : pattern ∈ patterns) (ascii : ∀ c ∈ pattern.toList, IsAscii c)
    (asciiPart : ∀ c ∈ part, IsAscii c) (occurs : part <:+: line.toList)
    (sameLetters : part.map Char.toLower = pattern.toList.map Char.toLower) :
    (ofPatterns patterns).accepts line = true := by
  rw [ofPatterns, accepts_substrings_iff]
  refine ⟨lowercase pattern, List.mem_map_of_mem member, ?_⟩
  rw [toList_lowercase_ascii ascii, ← sameLetters]
  exact infix_lowercase_ascii asciiPart occurs

theorem accepts_of_keepsSigmas {patterns : List String} {pattern line : String}
    {before after : List Char} (member : pattern ∈ patterns)
    (occurs : line.toList = before ++ pattern.toList ++ after)
    (keeps : KeepsSigmas before.reverse after pattern.toList) :
    (ofPatterns patterns).accepts line = true := by
  rw [ofPatterns, accepts_substrings_iff]
  refine ⟨lowercase pattern, List.mem_map_of_mem member, ?_⟩
  rw [toList_lowercase_of_occurs occurs, lowerPart_eq_iff.mpr keeps, lowerPart_nil,
    ← toList_lowercase]
  exact ⟨_, _, rfl⟩

end Matcher

open Matcher

/-- Where a pattern occurs in a line as written, the lowered line holds the lowered pattern in that
place exactly when every capital sigma is lowered there as in the pattern. Then the line is
accepted, and so is every line that holds a pattern without capital sigma. -/
theorem literal_occurrence_accepted {patterns : List String} {pattern line : String}
    {before after : List Char} (member : pattern ∈ patterns)
    (occurs : line.toList = before ++ pattern.toList ++ after) :
    (KeepsSigmas before.reverse after pattern.toList → (ofPatterns patterns).accepts line = true) ∧
      ('Σ' ∉ pattern.toList → (ofPatterns patterns).accepts line = true) ∧
      (((lowercase line).toList.drop (lowercase (String.ofList before)).length).take
            (lowercase pattern).length = (lowercase pattern).toList ↔
          KeepsSigmas before.reverse after pattern.toList) := by
  refine ⟨accepts_of_keepsSigmas member occurs, ?_, ?_⟩
  · exact fun absent => accepts_of_keepsSigmas member occurs (.of_not_mem absent)
  · have before_length : (lowercase (String.ofList before)).length =
        (lowerPart [] (pattern.toList ++ after) before).length := by
      rw [← String.length_toList, toList_lowercase, String.toList_ofList, ← lowerPart_nil,
        length_lowerPart [] (pattern.toList ++ after)]
    have pattern_eq : (lowercase pattern).toList = lowerPart [] [] pattern.toList := by
      rw [toList_lowercase, lowerPart_nil]
    have pattern_length : (lowercase pattern).length =
        (lowerPart before.reverse after pattern.toList).length := by
      rw [← String.length_toList, pattern_eq, length_lowerPart before.reverse after]
    rw [toList_lowercase_of_occurs occurs, List.append_assoc, before_length, List.drop_left,
      pattern_length, List.take_left, pattern_eq, lowerPart_eq_iff]

/-- A pattern that ends in a sigma is met as a word of its own. -/
theorem literal_occurrence_accepted_word :
    "load libΣ 1.0".toList = "load ".toList ++ "libΣ".toList ++ " 1.0".toList ∧
      KeepsSigmas "load ".toList.reverse " 1.0".toList "libΣ".toList ∧
      (ofPatterns ["cargo", "libΣ"]).accepts "load libΣ 1.0" = true := by
  have occurs : "load libΣ 1.0".toList = "load ".toList ++ "libΣ".toList ++ " 1.0".toList := by
    decide
  have keeps : KeepsSigmas "load ".toList.reverse " 1.0".toList "libΣ".toList := by
    decide +kernel
  have member : "libΣ" ∈ ["cargo", "libΣ"] := by decide
  exact ⟨occurs, keeps, (literal_occurrence_accepted member occurs).1 keeps⟩

/-- The same pattern is missed at the beginning of a longer word, where its sigma is no final one. -/
theorem literal_occurrence_missed :
    "libΣ".toList <:+: "libΣ.so".toList ∧
      (ofPatterns ["libΣ"]).accepts "libΣ.so" = false := by
  decide +kernel

/-! ## Letters in either case -/

namespace Matcher

/-- The pattern occurs in the line, up to the case of letters below 128. -/
def OccursInAnyCase (pattern line : String) : Prop :=
  ∃ part, part <:+: line.toList ∧ SameLetters part pattern.toList

theorem accepts_of_occursInAnyCase {patterns : List String} {pattern line : String}
    (member : pattern ∈ patterns) (ascii : ∀ c ∈ pattern.toList, IsAscii c)
    (occurs : OccursInAnyCase pattern line) : (ofPatterns patterns).accepts line = true := by
  obtain ⟨part, within, same⟩ := occurs
  exact accepts_of_ascii member ascii (same.forall_isAscii ascii) within same

/-- A line below 128 holds no other pattern below 128 than those that occur in it in some case. -/
theorem occursInAnyCase_of_accepts {patterns : List String} {line : String}
    (ascii : ∀ pattern ∈ patterns, ∀ c ∈ pattern.toList, IsAscii c)
    (asciiLine : ∀ c ∈ line.toList, IsAscii c)
    (accepts : (ofPatterns patterns).accepts line = true) :
    ∃ pattern ∈ patterns, OccursInAnyCase pattern line := by
  rw [ofPatterns, accepts_substrings_iff] at accepts
  obtain ⟨stored, inStored, occurs⟩ := accepts
  obtain ⟨pattern, member, rfl⟩ := List.mem_map.mp inStored
  rw [toList_lowercase_ascii (ascii pattern member), toList_lowercase_ascii asciiLine] at occurs
  exact ⟨pattern, member, exists_infix_sameLetters occurs⟩

theorem ofPatterns_eq_of_sameLetters {patterns others : List String}
    (same : List.Forall₂ (fun pattern other => SameLetters pattern.toList other.toList)
      patterns others) : ofPatterns patterns = ofPatterns others := by
  have stored : patterns.map lowercase = others.map lowercase := by
    induction same with
    | nil => rfl
    | cons first _ induction =>
        rw [List.map_cons, List.map_cons, lowercase_eq_of_sameLetters first, induction]
  exact congrArg substrings stored

theorem accepts_substrings_eq_of_sameLetters {stored : List String} {line other : String}
    (same : SameLetters line.toList other.toList) :
    (substrings stored).accepts line = (substrings stored).accepts other := by
  unfold accepts
  rw [lowercase_eq_of_sameLetters same]

end Matcher

/-- Patterns below 128 are met by every line that holds one of them in some case, and on lines below
128 by no other. The case of letters below 128, in any patterns and any line, changes neither the
stored patterns nor the answer. -/
theorem letter_case_disregarded (patterns : List String) :
    ((∀ pattern ∈ patterns, ∀ c ∈ pattern.toList, IsAscii c) →
      ∀ line : String,
        ((∃ pattern ∈ patterns, OccursInAnyCase pattern line) →
          (ofPatterns patterns).accepts line = true) ∧
        ((∀ c ∈ line.toList, IsAscii c) → (ofPatterns patterns).accepts line = true →
          ∃ pattern ∈ patterns, OccursInAnyCase pattern line)) ∧
      ∀ (others : List String) (line other : String),
        List.Forall₂ (fun pattern other => SameLetters pattern.toList other.toList)
            patterns others →
          SameLetters line.toList other.toList →
            ofPatterns patterns = ofPatterns others ∧
              (ofPatterns patterns).accepts line = (ofPatterns others).accepts other := by
  constructor
  · intro ascii line
    constructor
    · rintro ⟨pattern, member, occurs⟩
      exact accepts_of_occursInAnyCase member (ascii pattern member) occurs
    · exact fun asciiLine accepts => occursInAnyCase_of_accepts ascii asciiLine accepts
  · intro others line other samePatterns sameLine
    have stored := ofPatterns_eq_of_sameLetters samePatterns
    rw [← stored]
    exact ⟨rfl, accepts_substrings_eq_of_sameLetters sameLine⟩

/-- A pattern is met in capitals between a sigma and an accented letter, and nothing else is met on a
line below 128. A word that ends in a capital sigma is stored alike in either case, and lines that
hold it in either case are accepted alike. -/
theorem letter_case_disregarded_between_sigmas :
    (ofPatterns ["std::Panic"]).accepts "ΑΣSTD::PANICİ" = true ∧
      (∃ pattern ∈ ["std::Panic"], OccursInAnyCase pattern "at STD::panicking") ∧
      ofPatterns ["libΣ"] = ofPatterns ["LIBΣ"] ∧
      (ofPatterns ["libΣ"]).accepts "use LiBΣ.SO" = (ofPatterns ["LIBΣ"]).accepts "USE lIbΣ.so" := by
  have ascii : ∀ pattern ∈ ["std::Panic"], ∀ c ∈ pattern.toList, IsAscii c := by simp [IsAscii]
  have occurs : OccursInAnyCase "std::Panic" "ΑΣSTD::PANICİ" :=
    ⟨"STD::PANIC".toList, ⟨"ΑΣ".toList, "İ".toList, by decide⟩, by decide⟩
  have asciiLine : ∀ c ∈ "at STD::panicking".toList, IsAscii c := by simp [IsAscii]
  have accepted : (ofPatterns ["std::Panic"]).accepts "at STD::panicking" = true := by
    decide +kernel
  have samePatterns : List.Forall₂ (fun pattern other : String =>
      SameLetters pattern.toList other.toList) ["libΣ"] ["LIBΣ"] :=
    .cons (by decide) .nil
  have sameLine : SameLetters "use LiBΣ.SO".toList "USE lIbΣ.so".toList := by decide
  obtain ⟨met, _⟩ := letter_case_disregarded ["std::Panic"]
  refine ⟨(met ascii _).1 ⟨_, by decide, occurs⟩, (met ascii _).2 asciiLine accepted, ?_⟩
  exact (letter_case_disregarded ["libΣ"]).2 _ _ _ samePatterns sameLine

end Toolmark
