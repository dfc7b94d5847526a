import Mathlib.Tactic.Tauto
import Toolmark.Regex

/-!
# Matches and their search

Which parts of a text an expression matches is said without marks, by joining and repeating what its
parts match. The marks stand for matches in progress: reading a character continues them and begins
those that may begin there. So a search of an unmarked expression succeeds exactly if some part of
the text matches.
-/

namespace Toolmark.Regex

open Text

/-- The characters next to a position, given what stands before it, nearest first, and after it. -/
def between (before after : List Char) : Neighbours := ⟨before.head?, after.head?⟩

/-- Parts of texts, each between the characters before it, nearest first, and those after it. -/
abbrev Spans := List Char → List Char → List Char → Prop

namespace Spans

/-- One part after another. -/
def Joins (first second : Spans) (before part after : List Char) : Prop :=
  ∃ front back, part = front ++ back ∧ first before front (back ++ after) ∧
    second (front.reverse ++ before) back after

/-- Any number of parts, one after another. -/
inductive Repeats (once : Spans) : List Char → List Char → List Char → Prop where
  | none (before after : List Char) : Repeats once before [] after
  | more {before front back after : List Char} : once before front (back ++ after) →
      Repeats once (front.reverse ++ before) back after → Repeats once before (front ++ back) after

/-- One part after another, of which the first begins with a character. -/
def JoinsFrom (c : Char) (first second : Spans) (before part after : List Char) : Prop :=
  ∃ front back, part = front ++ back ∧ first before (c :: front) (back ++ after) ∧
    second (front.reverse ++ c :: before) back after

/-- One of the parts stands at the beginning of a text. -/
def Begins (spans : Spans) (before rest : List Char) : Prop :=
  ∃ part after, rest = part ++ after ∧ spans before part after

/-- One of the parts is a character with the beginning of the text behind it. -/
def BeginsFrom (c : Char) (spans : Spans) (before rest : List Char) : Prop :=
  ∃ part after, rest = part ++ after ∧ spans before (c :: part) after

/-- One of the parts stands anywhere in a text. -/
def Occurs (spans : Spans) (before rest : List Char) : Prop :=
  ∃ skipped part after, rest = skipped ++ part ++ after ∧
    spans (skipped.reverse ++ before) part after

variable {spans first second once : Spans} {before part after rest : List Char} {c : Char}

theorem joins_nil_iff :
    Joins first second before [] after ↔ first before [] after ∧ second before [] after := by
  constructor
  · rintro ⟨front, back, empty, matchesFirst, matchesSecond⟩
    obtain ⟨rfl, rfl⟩ := List.append_eq_nil_iff.mp empty.symm
    exact ⟨matchesFirst, matchesSecond⟩
  · rintro ⟨matchesFirst, matchesSecond⟩
    exact ⟨[], [], rfl, matchesFirst, matchesSecond⟩

theorem joins_cons_iff :
    Joins first second before (c :: part) after ↔
      first before [] (c :: part ++ after) ∧ second before (c :: part) after ∨
        JoinsFrom c first second before part after := by
  constructor
  · rintro ⟨front, back, split, matchesFirst, matchesSecond⟩
    cases front with
    | nil =>
        obtain rfl : back = c :: part := split.symm
        exact .inl ⟨matchesFirst, matchesSecond⟩
    | cons d front =>
        obtain ⟨rfl, part_eq⟩ := List.cons_eq_cons.mp split
        refine .inr ⟨front, back, part_eq, matchesFirst, ?_⟩
        simpa using matchesSecond
  · rintro (⟨matchesFirst, matchesSecond⟩ | ⟨front, back, rfl, matchesFirst, matchesSecond⟩)
    · exact ⟨[], c :: part, rfl, matchesFirst, matchesSecond⟩
    · exact ⟨c :: front, back, rfl, matchesFirst, by simpa using matchesSecond⟩

/-- Of repetitions that begin with a character, the empty ones at the beginning do not count. -/
theorem repeats_cons_iff :
    Repeats once before (c :: part) after ↔
      JoinsFrom c once (Repeats once) before part after := by
  constructor
  · intro repeated
    generalize whole_eq : c :: part = whole at repeated
    induction repeated with
    | none => nomatch whole_eq
    | @more before front back after first rest induction =>
        cases front with
        | nil => exact induction whole_eq
        | cons d front =>
            obtain ⟨rfl, part_eq⟩ := List.cons_eq_cons.mp whole_eq
            exact ⟨front, back, part_eq, first, by simpa using rest⟩
  · rintro ⟨front, back, rfl, first, rest⟩
    have repeated : Repeats once before (c :: front ++ back) after :=
      .more first (by simpa using rest)
    exact repeated

theorem joins_of_cons_iff {next continued begun : Spans} {enter : Prop}
    (next_iff : ∀ part after,
      next (c :: before) part after ↔
        continued before (c :: part) after ∨ enter ∧ begun before (c :: part) after) :
    Joins next second (c :: before) part after ↔
      JoinsFrom c continued second before part after ∨
        enter ∧ JoinsFrom c begun second before part after := by
  simp only [Joins, JoinsFrom, next_iff]
  constructor
  · rintro ⟨front, back, part_eq, continues | ⟨enters, begins⟩, rest⟩
    · exact .inl ⟨front, back, part_eq, continues, rest⟩
    · exact .inr ⟨enters, front, back, part_eq, begins, rest⟩
  · rintro (⟨front, back, part_eq, continues, rest⟩ | ⟨enters, front, back, part_eq, begins, rest⟩)
    · exact ⟨front, back, part_eq, .inl continues, rest⟩
    · exact ⟨front, back, part_eq, .inr ⟨enters, begins⟩, rest⟩

theorem begins_nil_iff : Begins spans before [] ↔ spans before [] [] := by
  constructor
  · rintro ⟨part, after, empty, holds⟩
    obtain ⟨rfl, rfl⟩ := List.append_eq_nil_iff.mp empty.symm
    exact holds
  · exact fun holds => ⟨[], [], rfl, holds⟩

theorem begins_cons_iff :
    Begins spans before (c :: rest) ↔
      spans before [] (c :: rest) ∨ BeginsFrom c spans before rest := by
  constructor
  · rintro ⟨part, after, split, holds⟩
    cases part with
    | nil =>
        obtain rfl : after = c :: rest := split.symm
        exact .inl holds
    | cons d part =>
        obtain ⟨rfl, rest_eq⟩ := List.cons_eq_cons.mp split
        exact .inr ⟨part, after, rest_eq, holds⟩
  · rintro (holds | ⟨part, after, rfl, holds⟩)
    · exact ⟨[], c :: rest, rfl, holds⟩
    · exact ⟨c :: part, after, rfl, holds⟩

/-- What a character continues or begins goes on behind it. -/
theorem begins_of_cons_iff {next continued begun : Spans}
    (next_iff : ∀ part after,
      next (c :: before) part after ↔
        continued before (c :: part) after ∨ begun before (c :: part) after) :
    Begins next (c :: before) rest ↔
      BeginsFrom c continued before rest ∨ BeginsFrom c begun before rest := by
  simp only [Begins, BeginsFrom, next_iff, and_or_left, exists_or]

theorem occurs_nil_iff : Occurs spans before [] ↔ spans before [] [] := by
  constructor
  · rintro ⟨skipped, part, after, empty, holds⟩
    obtain ⟨skipped_part_eq, rfl⟩ := List.append_eq_nil_iff.mp empty.symm
    obtain ⟨rfl, rfl⟩ := List.append_eq_nil_iff.mp skipped_part_eq
    exact holds
  · exact fun holds => ⟨[], [], [], rfl, holds⟩

theorem occurs_cons_iff :
    Occurs spans before (c :: rest) ↔
      Begins spans before (c :: rest) ∨ Occurs spans (c :: before) rest := by
  constructor
  · rintro ⟨skipped, part, after, split, holds⟩
    cases skipped with
    | nil => exact .inl ⟨part, after, split, holds⟩
    | cons d skipped =>
        obtain ⟨rfl, rest_eq⟩ := List.cons_eq_cons.mp split
        exact .inr ⟨skipped, part, after, rest_eq, by simpa using holds⟩
  · rintro (⟨part, after, split, holds⟩ | ⟨skipped, part, after, rfl, holds⟩)
    · exact ⟨[], part, after, split, holds⟩
    · exact ⟨c :: skipped, part, after, rfl, by simpa using holds⟩

end Spans

open Spans

namespace Expr

/-- The expression matches a part of a text. -/
def Matches : Expr → Spans
  | empty => fun _ part _ => part = []
  | char _ set => fun _ part _ => ∃ c, part = [c] ∧ set.contains c = true
  | assert assertion => fun before part after =>
      part = [] ∧ assertion.holds (between before after) = true
  | seq first second => Joins first.Matches second.Matches
  | alt left right => fun before part after =>
      left.Matches before part after ∨ right.Matches before part after
  | star body => Repeats body.Matches

/-- A match in progress goes on through a part of a text and ends behind it. -/
def Resumes : Expr → Spans
  | empty => fun _ _ _ => False
  | char live _ => fun _ part _ => live = true ∧ part = []
  | assert _ => fun _ _ _ => False
  | seq first second => fun before part after =>
      Joins first.Resumes second.Matches before part after ∨ second.Resumes before part after
  | alt left right => fun before part after =>
      left.Resumes before part after ∨ right.Resumes before part after
  | star body => Joins body.Resumes (Repeats body.Matches)

/-- No match is in progress. -/
def Idle : Expr → Prop
  | empty => True
  | char live _ => live = false
  | assert _ => True
  | seq first second => first.Idle ∧ second.Idle
  | alt left right => left.Idle ∧ right.Idle
  | star body => body.Idle

/-! ## One position -/

theorem skips_reach_iff (expr : Expr) (before after : List Char) :
    (expr.reach (between before after)).skips = true ↔ expr.Matches before [] after := by
  induction expr with
  | empty => simp [reach, Matches]
  | char live set => simp [reach, Matches]
  | assert assertion => simp [reach, Matches]
  | seq first second firstInduction secondInduction =>
      simp [reach, Matches, joins_nil_iff, firstInduction, secondInduction]
  | alt left right leftInduction rightInduction =>
      simp [reach, Matches, leftInduction, rightInduction]
  | star body _ => simp [reach, Matches, Repeats.none]

theorem ends_reach_iff (expr : Expr) (before after : List Char) :
    (expr.reach (between before after)).ends = true ↔ expr.Resumes before [] after := by
  induction expr with
  | empty => simp [reach, Resumes]
  | char live set => simp [reach, Resumes]
  | assert assertion => simp [reach, Resumes]
  | seq first second firstInduction secondInduction =>
      simp [reach, Resumes, joins_nil_iff, firstInduction, secondInduction, skips_reach_iff]
  | alt left right leftInduction rightInduction =>
      simp [reach, Resumes, leftInduction, rightInduction]
  | star body induction => simp [reach, Resumes, joins_nil_iff, induction, Repeats.none]

/-! ## One character -/

theorem snd_advance (here : Neighbours) (c : Char) (enter : Bool) (expr : Expr) :
    (expr.advance here c enter).2 = expr.reach here := by
  induction expr generalizing enter with
  | empty | char | assert => rfl
  | seq first second firstInduction secondInduction =>
      simp only [advance, reach, firstInduction, secondInduction]
  | alt left right leftInduction rightInduction =>
      simp only [advance, reach, leftInduction, rightInduction]
  | star body _ => rfl

/-- Marks say nothing about what an expression matches. -/
theorem matches_fst_advance (here : Neighbours) (c : Char) (enter : Bool) (expr : Expr) :
    (expr.advance here c enter).1.Matches = expr.Matches := by
  induction expr generalizing enter with
  | empty | char | assert => rfl
  | seq first second firstInduction secondInduction =>
      simp only [advance, Matches, firstInduction, secondInduction]
  | alt left right leftInduction rightInduction =>
      simp only [advance, Matches, leftInduction, rightInduction]
  | star body induction => simp only [advance, Matches, induction]

/-- Behind a character, those matches are in progress that it continues or begins. -/
theorem resumes_fst_advance_iff (expr : Expr) (before : List Char) (c : Char) (enter : Bool)
    (part after : List Char) :
    (expr.advance ⟨before.head?, some c⟩ c enter).1.Resumes (c :: before) part after ↔
      expr.Resumes before (c :: part) after ∨
        enter = true ∧ expr.Matches before (c :: part) after := by
  have here_eq (part after : List Char) :
      (⟨before.head?, some c⟩ : Neighbours) = between before (c :: part ++ after) := rfl
  induction expr generalizing enter part after with
  | empty => simp [advance, Resumes, Matches]
  | char live set =>
      simp only [advance, Resumes, Matches, Bool.and_eq_true]
      constructor
      · rintro ⟨⟨enters, contains⟩, rfl⟩
        exact .inr ⟨enters, c, rfl, contains⟩
      · rintro (⟨-, impossible⟩ | ⟨enters, d, single, contains⟩)
        · nomatch impossible
        · obtain ⟨rfl, rfl⟩ := List.cons_eq_cons.mp single
          exact ⟨⟨enters, contains⟩, rfl⟩
  | assert assertion => simp [advance, Resumes, Matches]
  | seq first second firstInduction secondInduction =>
      simp only [advance, Resumes, Matches, matches_fst_advance, snd_advance,
        joins_of_cons_iff (firstInduction enter), secondInduction, joins_cons_iff,
        Bool.or_eq_true, Bool.and_eq_true]
      rw [here_eq part after, skips_reach_iff, ends_reach_iff]
      tauto
  | alt left right leftInduction rightInduction =>
      simp only [advance, Resumes, Matches, leftInduction, rightInduction]
      tauto
  | star body induction =>
      have begins_iff : (enter || (body.reach ⟨before.head?, some c⟩).ends) = true ↔
          enter = true ∨ body.Resumes before [] (c :: part ++ after) := by
        rw [Bool.or_eq_true, here_eq part after, ends_reach_iff]
      simp only [advance, Resumes, Matches, matches_fst_advance,
        joins_of_cons_iff (induction _), joins_cons_iff, repeats_cons_iff, begins_iff]
      tauto

/-! ## Texts -/

/-- A search finds the end of a match in progress, or a whole match. -/
theorem search_iff (before rest : List Char) (expr : Expr) :
    search before.head? rest expr = true ↔
      Begins expr.Resumes before rest ∨ Occurs expr.Matches before rest := by
  induction rest generalizing before expr with
  | nil =>
      have here_eq : (⟨before.head?, none⟩ : Neighbours) = between before [] := rfl
      simp only [search, Bool.or_eq_true, here_eq, skips_reach_iff, ends_reach_iff,
        begins_nil_iff, occurs_nil_iff]
      tauto
  | cons c rest induction =>
      have here_eq : (⟨before.head?, some c⟩ : Neighbours) = between before (c :: rest) := rfl
      have later := induction (c :: before) (expr.advance ⟨before.head?, some c⟩ c true).1
      have next_iff (part after : List Char) :=
        (resumes_fst_advance_iff expr before c true part after).trans (by rw [and_iff_right rfl])
      rw [matches_fst_advance, begins_of_cons_iff next_iff, List.head?_cons] at later
      simp only [search, Bool.or_eq_true, snd_advance, later]
      rw [here_eq, skips_reach_iff, ends_reach_iff, occurs_cons_iff, begins_cons_iff,
        begins_cons_iff]
      tauto

theorem not_resumes_of_idle {expr : Expr} (idle : expr.Idle) (before part after : List Char) :
    ¬expr.Resumes before part after := by
  induction expr generalizing before part after with
  | empty | assert => exact id
  | char live set =>
      rintro ⟨isLive, -⟩
      exact Bool.false_ne_true (idle.symm.trans isLive)
  | seq first second firstInduction secondInduction =>
      rintro (⟨_, _, _, resumes, _⟩ | resumes)
      · exact firstInduction idle.1 _ _ _ resumes
      · exact secondInduction idle.2 _ _ _ resumes
  | alt left right leftInduction rightInduction =>
      rintro (resumes | resumes)
      · exact leftInduction idle.1 _ _ _ resumes
      · exact rightInduction idle.2 _ _ _ resumes
  | star body induction =>
      rintro ⟨_, _, _, resumes, _⟩
      exact induction idle _ _ _ resumes

/-- Without a match in progress, a search succeeds exactly if some part of the text matches. -/
theorem isMatch_iff {expr : Expr} (idle : expr.Idle) (text : String) :
    expr.isMatch text = true ↔
      ∃ before part after, text.toList = before ++ part ++ after ∧
        expr.Matches before.reverse part after := by
  have search_text := search_iff [] text.toList expr
  rw [List.head?_nil] at search_text
  rw [isMatch, search_text]
  constructor
  · rintro (⟨_, _, _, resumes⟩ | ⟨skipped, part, after, split, isMatched⟩)
    · exact absurd resumes (not_resumes_of_idle idle _ _ _)
    · exact ⟨skipped, part, after, split, by simpa using isMatched⟩
  · rintro ⟨skipped, part, after, split, isMatched⟩
    exact .inr ⟨skipped, part, after, split, by simpa using isMatched⟩

theorem idle_power {expr : Expr} (idle : expr.Idle) (count : Nat) : (expr.power count).Idle := by
  induction count using Nat.strongRecOn with
  | ind count induction =>
      rw [power]
      split
      case isTrue => trivial
      case isFalse =>
        split
        case isTrue => exact idle
        case isFalse => exact ⟨induction _ (by omega), induction _ (by omega)⟩

end Expr

theorem Pattern.idle_toExpr (pattern : Pattern) : pattern.toExpr.Idle := by
  induction pattern with
  | empty | assert => trivial
  | literal | oneOf => rfl
  | seq first second firstInduction secondInduction => exact ⟨firstInduction, secondInduction⟩
  | alt left right leftInduction rightInduction => exact ⟨leftInduction, rightInduction⟩
  | capture body induction => exact induction
  | repeated body least most induction =>
      unfold toExpr
      split
      · exact ⟨Expr.idle_power induction _, induction⟩
      · have optional : (Expr.alt body.toExpr .empty).Idle := ⟨induction, trivial⟩
        exact ⟨Expr.idle_power induction _, Expr.idle_power optional _⟩

/-- A regular expression is found in exactly those texts of which it matches some part. -/
theorem matches?_iff {source : String} {regex : Regex} (compiled : compile? source = some regex)
    (text : String) :
    regex.matches? text = true ↔
      ∃ before part after, text.toList = before ++ part ++ after ∧
        regex.expr.Matches before.reverse part after := by
  have idle : regex.expr.Idle := by
    unfold compile? at compiled
    obtain ⟨⟨pattern, depth⟩, -, limited⟩ := Option.bind_eq_some_iff.mp compiled
    obtain ⟨-, regex_eq⟩ := Option.ite_none_left_eq_some.mp limited
    obtain rfl := Option.some.inj regex_eq
    exact pattern.idle_toExpr
  exact Expr.isMatch_iff idle text

end Toolmark.Regex
