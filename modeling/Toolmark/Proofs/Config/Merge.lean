import Toolmark.Proofs.Config.Effect
import Toolmark.Proofs.Config.Entries

/-!
# Configurations one after another

Two configurations that are applied one after another act like one of them, in which the later one
comes first field by field. Validity is kept, because what an override may give depends on the
technique alone, and no replacement looks at the part that it replaces.
-/

namespace Toolmark

namespace Override

variable {technique : Technique} {earlier later override : Override} {before between after : Detector}

/-- The fields of a later override, and those of an earlier one where it gives none. -/
def merge (earlier later : Override) : Override where
  patterns := later.patterns.or earlier.patterns
  regex := later.regex.or earlier.regex
  cap := later.cap.or earlier.cap

@[simp]
theorem merge_unchanged (override : Override) : override.merge unchanged = override := rfl

@[simp]
theorem unchanged_merge (override : Override) : unchanged.merge override = override := by
  simp [merge, unchanged]

@[simp]
theorem merge_self (override : Override) : override.merge override = override := by
  simp [merge]

theorem Suits.merge (suits : earlier.Suits technique) (laterSuits : later.Suits technique) :
    (earlier.merge later).Suits technique where
  noPatterns isSymbols :=
    Option.or_eq_none_iff.mpr ⟨laterSuits.noPatterns isSymbols, suits.noPatterns isSymbols⟩
  noRegex other := Option.or_eq_none_iff.mpr ⟨laterSuits.noRegex other, suits.noRegex other⟩
  compiles source given := by
    rcases Option.or_eq_some_iff.mp given with given | ⟨-, given⟩
    · exact laterSuits.compiles source given
    · exact suits.compiles source given
  nonempty patterns given := by
    rcases Option.or_eq_some_iff.mp given with given | ⟨-, given⟩
    · exact laterSuits.nonempty patterns given
    · exact suits.nonempty patterns given
  nonemptyTexts patterns given := by
    rcases Option.or_eq_some_iff.mp given with given | ⟨-, given⟩
    · exact laterSuits.nonemptyTexts patterns given
    · exact suits.nonemptyTexts patterns given
  cap_ne_zero noCap := by
    rcases Option.or_eq_some_iff.mp noCap with noCap | ⟨-, noCap⟩
    · exact laterSuits.cap_ne_zero noCap
    · exact suits.cap_ne_zero noCap

theorem Replaces.unique {other : Detector} (replaces : override.Replaces before after)
    (otherReplaces : override.Replaces before other) : after = other := by
  have matchers : after.matcher = other.matcher := by
    cases given : override.regex with
    | some source =>
        obtain ⟨regex, compiled, matcher_eq⟩ := replaces.matcher_of_regex source given
        obtain ⟨_, otherCompiled, otherMatcher_eq⟩ := otherReplaces.matcher_of_regex source given
        obtain rfl := Option.some.inj (compiled.symm.trans otherCompiled)
        rw [matcher_eq, otherMatcher_eq]
    | none =>
        cases texts : override.patterns with
        | some patterns =>
            rw [replaces.matcher_of_patterns patterns texts,
              otherReplaces.matcher_of_patterns patterns texts]
        | none => rw [replaces.matcher_eq texts given, otherReplaces.matcher_eq texts given]
  have techniques := replaces.technique_eq.trans otherReplaces.technique_eq.symm
  have tools := replaces.tool_eq.trans otherReplaces.tool_eq.symm
  have styles := replaces.style_eq.trans otherReplaces.style_eq.symm
  have caps := replaces.cap_eq.trans otherReplaces.cap_eq.symm
  obtain ⟨⟩ := after
  obtain ⟨⟩ := other
  simp_all

/-- Two replacements one after another are one replacement. Fingerprints of one kind only are given
for a technique, so those of the earlier override stay exactly where the later one gives none. -/
theorem Replaces.trans (replaces : earlier.Replaces before between)
    (laterReplaces : later.Replaces between after) (suits : earlier.Suits technique)
    (laterSuits : later.Suits technique) : (earlier.merge later).Replaces before after where
  technique_eq := laterReplaces.technique_eq.trans replaces.technique_eq
  tool_eq := laterReplaces.tool_eq.trans replaces.tool_eq
  style_eq := laterReplaces.style_eq.trans replaces.style_eq
  matcher_of_patterns patterns given := by
    rcases Option.or_eq_some_iff.mp given with given | ⟨noPatterns, given⟩
    · exact laterReplaces.matcher_of_patterns patterns given
    · have other : technique ≠ .symbols := by
        intro isSymbols
        simp [suits.noPatterns isSymbols] at given
      rw [laterReplaces.matcher_eq noPatterns (laterSuits.noRegex other)]
      exact replaces.matcher_of_patterns patterns given
  matcher_of_regex source given := by
    rcases Option.or_eq_some_iff.mp given with given | ⟨noRegex, given⟩
    · exact laterReplaces.matcher_of_regex source given
    · have isSymbols : technique = .symbols := by
        by_contra other
        simp [suits.noRegex other] at given
      rw [laterReplaces.matcher_eq (laterSuits.noPatterns isSymbols) noRegex]
      exact replaces.matcher_of_regex source given
  matcher_eq noPatterns noRegex := by
    obtain ⟨laterNoPatterns, noPatterns⟩ := Option.or_eq_none_iff.mp noPatterns
    obtain ⟨laterNoRegex, noRegex⟩ := Option.or_eq_none_iff.mp noRegex
    exact (laterReplaces.matcher_eq laterNoPatterns laterNoRegex).trans
      (replaces.matcher_eq noPatterns noRegex)
  cap_eq := by
    rw [laterReplaces.cap_eq, replaces.cap_eq, merge]
    cases later.cap <;> rfl

end Override

namespace Overrides

/-- The overrides of two configurations, merged by identifier. -/
def merge (earlier later : Overrides) : Overrides :=
  earlier.insertAll <| later.entries.map fun entry =>
    (entry.1, ((earlier.get? entry.1).getD .unchanged).merge entry.2)

theorem get?_merge (earlier later : Overrides) (id : String) :
    (earlier.merge later).get? id =
      Option.merge Override.merge (earlier.get? id) (later.get? id) := by
  have written : (((later.entries.map fun entry =>
      (entry.1, ((earlier.get? entry.1).getD .unchanged).merge entry.2)).filter
        fun entry => entry.1 = id).getLast?.map Prod.snd) =
      (later.get? id).map ((earlier.get? id).getD .unchanged).merge := by
    have lookup : later.get? id = (later.entries.find? fun entry => entry.1 = id).map (·.2) := rfl
    rw [List.filter_map, List.getLast?_map]
    change Option.map _ (Option.map _ (later.entries.filter fun entry => entry.1 = id).getLast?) = _
    rw [getLast?_filter_of_nodup later.nodup_ids, lookup]
    cases found : later.entries.find? fun entry => entry.1 = id with
    | none => rfl
    | some entry =>
        have named : entry.1 = id := by simpa using List.find?_some found
        simp [named]
  rw [merge, get?_insertAll, written]
  cases earlier.get? id <;> cases later.get? id <;> simp [Option.merge]

@[simp]
theorem merge_self (overrides : Overrides) : overrides.merge overrides = overrides := by
  refine ext_get? fun id => ?_
  rw [get?_merge]
  cases overrides.get? id <;> simp [Option.merge]

theorem merge_comm_of_disjoint {left right : Overrides}
    (disjoint : ∀ id, left.get? id = none ∨ right.get? id = none) :
    left.merge right = right.merge left := by
  refine ext_get? fun id => ?_
  rw [get?_merge, get?_merge]
  rcases disjoint id with absent | absent
  · rw [absent]
    cases right.get? id <;> rfl
  · rw [absent]
    cases left.get? id <;> rfl

end Overrides

namespace Config

variable {earlier later config : Config}

/-- The configuration that acts like two of them, one after another. -/
def merge (earlier later : Config) : Config where
  timeoutSecs := later.timeoutSecs.or earlier.timeoutSecs
  detectors := earlier.detectors.merge later.detectors

@[simp]
theorem merge_self (config : Config) : config.merge config = config := by
  simp [merge]

theorem overrideOf_merge (earlier later : Config) (technique : Technique) :
    (earlier.merge later).overrideOf technique =
      (earlier.overrideOf technique).merge (later.overrideOf technique) := by
  unfold overrideOf
  rw [merge, Overrides.get?_merge]
  cases earlier.detectors.get? technique.id <;> cases later.detectors.get? technique.id <;>
    simp [Option.merge]

theorem exists_suits (valid : config.validate = .ok ()) {id : String} {override : Override}
    (found : config.detectors.get? id = some override) :
    ∃ technique, Technique.ofId? id = some technique ∧ override.Suits technique :=
  (validate_eq_ok_iff.mp valid).2 _ (Overrides.get?_eq_some_iff.mp found)

theorem validate_merge (valid : earlier.validate = .ok ()) (laterValid : later.validate = .ok ()) :
    (earlier.merge later).validate = .ok () := by
  refine validate_eq_ok_iff.mpr ⟨fun noTime => ?_, fun entry member => ?_⟩
  · rcases Option.or_eq_some_iff.mp noTime with noTime | ⟨-, noTime⟩
    · exact (validate_eq_ok_iff.mp laterValid).1 noTime
    · exact (validate_eq_ok_iff.mp valid).1 noTime
  · have merged := Overrides.get?_eq_some_iff.mpr member
    rw [merge, Overrides.get?_merge] at merged
    cases found : earlier.detectors.get? entry.1 with
    | none =>
        cases laterFound : later.detectors.get? entry.1 with
        | none =>
            rw [found, laterFound] at merged
            nomatch merged
        | some override =>
            rw [found, laterFound] at merged
            exact Option.some.inj merged ▸ exists_suits laterValid laterFound
    | some override =>
        obtain ⟨technique, named, suits⟩ := exists_suits valid found
        cases laterFound : later.detectors.get? entry.1 with
        | none =>
            rw [found, laterFound] at merged
            exact ⟨technique, named, Option.some.inj merged ▸ suits⟩
        | some laterOverride =>
            obtain ⟨laterTechnique, laterNamed, laterSuits⟩ := exists_suits laterValid laterFound
            obtain rfl := Option.some.inj (named.symm.trans laterNamed)
            rw [found, laterFound] at merged
            exact ⟨technique, named, Option.some.inj merged ▸ suits.merge laterSuits⟩

theorem eq_of_replaces (valid : earlier.validate = .ok ()) (laterValid : later.validate = .ok ())
    {befores betweens afters others : List Detector}
    (replaces : List.Forall₂
      (fun before after => (earlier.overrideOf before.technique).Replaces before after)
      befores betweens)
    (laterReplaces : List.Forall₂
      (fun before after => (later.overrideOf before.technique).Replaces before after)
      betweens afters)
    (merged : List.Forall₂
      (fun before after => ((earlier.merge later).overrideOf before.technique).Replaces before after)
      befores others) : afters = others := by
  induction replaces generalizing afters others with
  | nil =>
      cases laterReplaces
      cases merged
      rfl
  | @cons before between _ _ first _ induction =>
      cases laterReplaces with
      | @cons _ after _ _ second rest =>
          cases merged with
          | @cons _ other _ _ both others =>
              rw [first.technique_eq] at second
              rw [overrideOf_merge] at both
              have composed := first.trans second (overrideOf_suits valid _)
                (overrideOf_suits laterValid _)
              rw [composed.unique both, induction rest others]

/-- Applying one configuration and then another one is applying the merged one. -/
theorem exists_apply_merge (valid : earlier.validate = .ok ()) (laterValid : later.validate = .ok ())
    (detectors : List Detector) :
    ∃ applied, (earlier.merge later).apply detectors = .ok applied ∧
      (earlier.apply detectors >>= later.apply) = .ok applied := by
  obtain ⟨between, between_eq, replaces⟩ := exists_apply valid detectors
  obtain ⟨after, after_eq, laterReplaces⟩ := exists_apply laterValid between
  obtain ⟨applied, applied_eq, merged⟩ := exists_apply (validate_merge valid laterValid) detectors
  refine ⟨applied, applied_eq, ?_⟩
  rw [between_eq, ← eq_of_replaces valid laterValid replaces laterReplaces merged]
  exact after_eq

theorem apply_congr (valid : earlier.validate = .ok ()) (laterValid : later.validate = .ok ())
    (same : earlier.detectors = later.detectors) (detectors : List Detector) :
    earlier.apply detectors = later.apply detectors := by
  have each : earlier.applyTo = later.applyTo := by
    funext detector
    rw [applyTo, applyTo, same]
  rw [apply, apply, valid, laterValid, each]

end Config

/-- Valid configurations compose: what is applied one after another is applied at once by the merged
configuration, which is valid and takes each field from the later one if that gives it. So a
configuration that is applied again changes nothing more, and configurations of different
identifiers can be applied in any order. -/
theorem overrides_compose {earlier later : Config} (valid : earlier.validate = .ok ())
    (laterValid : later.validate = .ok ()) :
    (earlier.merge later).validate = .ok () ∧
      (earlier.merge later).timeoutSecs = later.timeoutSecs.or earlier.timeoutSecs ∧
      (∀ id, (earlier.merge later).detectors.get? id =
        Option.merge Override.merge (earlier.detectors.get? id) (later.detectors.get? id)) ∧
      (∀ detectors, ∃ applied, (earlier.merge later).apply detectors = .ok applied ∧
        (earlier.apply detectors >>= later.apply) = .ok applied) ∧
      (∀ detectors, ∃ applied, earlier.apply detectors = .ok applied ∧
        earlier.apply applied = .ok applied) ∧
      ((∀ id, earlier.detectors.get? id = none ∨ later.detectors.get? id = none) →
        ∀ detectors, ∃ applied, (earlier.apply detectors >>= later.apply) = .ok applied ∧
          (later.apply detectors >>= earlier.apply) = .ok applied) := by
  refine ⟨Config.validate_merge valid laterValid, rfl, Overrides.get?_merge _ _,
    Config.exists_apply_merge valid laterValid, fun detectors => ?_, fun disjoint detectors => ?_⟩
  · obtain ⟨applied, once, twice⟩ := Config.exists_apply_merge valid valid detectors
    rw [Config.merge_self] at once
    rw [once] at twice
    exact ⟨applied, once, twice⟩
  · obtain ⟨applied, merged, inTurn⟩ := Config.exists_apply_merge valid laterValid detectors
    obtain ⟨other, otherMerged, otherInTurn⟩ := Config.exists_apply_merge laterValid valid detectors
    have same : (earlier.merge later).apply detectors = (later.merge earlier).apply detectors :=
      Config.apply_congr (Config.validate_merge valid laterValid)
        (Config.validate_merge laterValid valid) (Overrides.merge_comm_of_disjoint disjoint) _
    have applied_eq : applied = other :=
      Except.ok.inj (merged.symm.trans (same.trans otherMerged))
    exact ⟨applied, inTurn, applied_eq ▸ otherInTurn⟩

/-- A configuration of texts, with a time budget. -/
def textsConfig : Config := ⟨some 5, .ofList [("strings", ⟨some ["lib"], none, some 2⟩)]⟩

/-- A configuration of mangled names. -/
def namesConfig : Config := ⟨none, .ofList [("symbols", ⟨none, some "_R", none⟩)]⟩

/-- Texts and mangled names can be configured in any order, and again. -/
theorem overrides_compose_distinct :
    (textsConfig.merge namesConfig).validate = .ok () ∧
      (textsConfig.merge namesConfig).timeoutSecs = some 5 ∧
      (∃ applied, textsConfig.apply Detector.allBuiltIn = .ok applied ∧
        textsConfig.apply applied = .ok applied) ∧
      ∃ applied, (textsConfig.apply Detector.allBuiltIn >>= namesConfig.apply) = .ok applied ∧
        (namesConfig.apply Detector.allBuiltIn >>= textsConfig.apply) = .ok applied := by
  have valid : textsConfig.validate = .ok () := by decide +kernel
  have namesValid : namesConfig.validate = .ok () := by decide +kernel
  have disjoint (id : String) :
      textsConfig.detectors.get? id = none ∨ namesConfig.detectors.get? id = none := by
    by_cases same : "strings" = id
    · exact .inr (same ▸ rfl)
    · refine .inl ((Overrides.get?_insert Overrides.empty "strings" id _).trans ?_)
      rw [if_neg same]
      rfl
  obtain ⟨mergedValid, timeout, -, -, again, inAnyOrder⟩ := overrides_compose valid namesValid
  exact ⟨mergedValid, timeout, again _, inAnyOrder disjoint _⟩

end Toolmark
