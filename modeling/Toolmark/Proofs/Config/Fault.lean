import Mathlib.Data.List.Perm.Basic
import Toolmark.Proofs.Config.Entries
import Toolmark.Proofs.Text.ByteOrder

/-!
# The fault that is reported

A configuration is accepted when its time budget is not empty and every entry is legal. Otherwise the
empty budget is reported, or else the first check that fails of the entry whose identifier comes
first. Entries are kept by identifier, so the order in which they were written does not matter.
-/

namespace Toolmark

open Text

theorem Technique.ofId?_eq_some_iff {id : String} {technique : Technique} :
    ofId? id = some technique ↔ technique.id = id := by
  constructor
  · intro found
    simpa using List.find?_some found
  · rintro rfl
    exact ofId?_id technique

theorem Technique.ne_symbols_id {id : String} {technique : Technique} (named : technique.id = id)
    (other : technique ≠ .symbols) : id ≠ symbols.id := by
  intro id_eq
  have same : some technique = some symbols := by
    rw [← ofId?_eq_some_iff.mpr named, id_eq, ofId?_id]
  exact other (Option.some.inj same)

/-- What a fault tells, where a library gives the reason why a text is no regular expression. -/
inductive ConfigError.Tells (reasons : Reasons) : ConfigError → String → Prop where
  | noTime : Tells reasons .noTime "timeout_secs must be greater than zero"
  | unknownTechnique (id : String) :
      Tells reasons (.unknownTechnique id)
        ("unknown technique " ++ quote id ++
          ", expected one of: strings, symbols, sections, allocator, panics")
  | needsRegex (id : String) :
      Tells reasons (.needsRegex id) (id ++ ": use 'regex' instead of 'patterns'")
  | needsPatterns (id : String) :
      Tells reasons (.needsPatterns id) (id ++ ": use 'patterns' instead of 'regex'")
  | invalidRegex (id source : String) :
      Tells reasons (.invalidRegex id source)
        (id ++ ": invalid regex " ++ quote source ++ ": " ++ reasons.regex source)
  | unusableRegex (source : String) :
      Tells reasons (.unusableRegex source)
        ("invalid regex " ++ quote source ++ ": " ++ reasons.regex source)
  | emptyPatterns (id : String) :
      Tells reasons (.emptyPatterns id) (id ++ ": patterns must be non-empty strings")
  | noCap (id : String) : Tells reasons (.noCap id) (id ++ ": cap must be greater than zero")

theorem ConfigError.tells_message (reasons : Reasons) (error : ConfigError) :
    error.Tells reasons (error.message reasons) := by
  cases error with
  | unknownTechnique id =>
      have listed : ", ".intercalate (Technique.all.map Technique.id) =
          "strings, symbols, sections, allocator, panics" := rfl
      have text_eq : (unknownTechnique id).message reasons =
          "unknown technique " ++ quote id ++ ", expected one of: " ++
            "strings, symbols, sections, allocator, panics" := by
        rw [← listed]
        rfl
      have joined : ", expected one of: " ++ "strings, symbols, sections, allocator, panics" =
          ", expected one of: strings, symbols, sections, allocator, panics" := rfl
      rw [text_eq, String.append_assoc, joined]
      exact .unknownTechnique id
  | _ => constructor

/-- The checks of an entry, in their order. -/
inductive EntryCheck where
  /-- The identifier is that of a technique. -/
  | name
  /-- The fingerprints are of the kind that the technique looks for. -/
  | kind
  /-- The fingerprints can be looked for. -/
  | value
  /-- There is room for a finding. -/
  | room
deriving DecidableEq, Repr

/-- The place of a check in the order. -/
def EntryCheck.place : EntryCheck → Nat
  | name => 0
  | kind => 1
  | value => 2
  | room => 3

namespace Override

variable {id : String} {override : Override} {error : ConfigError}

/-- An entry that is accepted. -/
structure Legal (id : String) (override : Override) : Prop where
  /-- A technique has the identifier. -/
  named : ∃ technique : Technique, technique.id = id
  /-- There is room for a finding. -/
  room : override.cap ≠ some 0
  /-- Mangled names are sought by a regular expression that can be read, everything else by some
  texts, none of which is empty. -/
  fingerprints :
    (id = Technique.symbols.id ∧ override.patterns = none ∧
        ∀ source, override.regex = some source → (Regex.compile? source).isSome = true) ∨
      (id ≠ Technique.symbols.id ∧ override.regex = none ∧
        ∀ patterns, override.patterns = some patterns →
          patterns ≠ [] ∧ ∀ pattern ∈ patterns, pattern ≠ "")

/-- An entry fails a check, which reports a fault. -/
inductive Fails (id : String) (override : Override) : EntryCheck → ConfigError → Prop where
  /-- No technique has the identifier. -/
  | unknown (unnamed : ∀ technique : Technique, technique.id ≠ id) :
      Fails id override .name (.unknownTechnique id)
  /-- Mangled names are not sought by texts. -/
  | texts (isSymbols : id = Technique.symbols.id) (given : override.patterns ≠ none) :
      Fails id override .kind (.needsRegex id)
  /-- Only mangled names are sought by a regular expression. -/
  | regex (named : ∃ technique : Technique, technique.id = id) (other : id ≠ Technique.symbols.id)
      (given : override.regex ≠ none) : Fails id override .kind (.needsPatterns id)
  /-- The regular expression cannot be read. -/
  | unreadable {source : String} (isSymbols : id = Technique.symbols.id)
      (given : override.regex = some source) (fails : Regex.compile? source = none) :
      Fails id override .value (.invalidRegex id source)
  /-- There is no text, or an empty one. -/
  | useless {patterns : List String} (named : ∃ technique : Technique, technique.id = id)
      (other : id ≠ Technique.symbols.id) (given : override.patterns = some patterns)
      (useless : patterns = [] ∨ "" ∈ patterns) : Fails id override .value (.emptyPatterns id)
  /-- There is no room for a finding. -/
  | full (cap : override.cap = some 0) : Fails id override .room (.noCap id)

/-- The first check that an entry fails reports the fault. -/
def FirstFails (id : String) (override : Override) (error : ConfigError) : Prop :=
  ∃ check, Fails id override check error ∧
    ∀ earlier other, Fails id override earlier other → check.place ≤ earlier.place

theorem Fails.unique {check : EntryCheck} {other : ConfigError}
    (fails : Fails id override check error) (otherFails : Fails id override check other) :
    error = other := by
  cases fails with
  | unknown => cases otherFails; rfl
  | texts isSymbols =>
      cases otherFails with
      | texts => rfl
      | regex _ other => exact absurd isSymbols other
  | regex _ other =>
      cases otherFails with
      | texts isSymbols => exact absurd isSymbols other
      | regex => rfl
  | unreadable isSymbols given =>
      cases otherFails with
      | unreadable _ otherGiven => rw [Option.some.inj (given.symm.trans otherGiven)]
      | useless _ other => exact absurd isSymbols other
  | useless _ other =>
      cases otherFails with
      | unreadable isSymbols => exact absurd isSymbols other
      | useless => rfl
  | full => cases otherFails; rfl

theorem FirstFails.unique {other : ConfigError} (first : FirstFails id override error)
    (otherFirst : FirstFails id override other) : error = other := by
  obtain ⟨check, fails, least⟩ := first
  obtain ⟨otherCheck, otherFails, otherLeast⟩ := otherFirst
  have same_place : check.place = otherCheck.place :=
    Nat.le_antisymm (least _ _ otherFails) (otherLeast _ _ fails)
  have same : check = otherCheck := by
    cases check <;> cases otherCheck <;> first | rfl | nomatch same_place
  subst same
  exact fails.unique otherFails

theorem not_fails_name (named : ∃ technique : Technique, technique.id = id) (other : ConfigError) :
    ¬Fails id override .name other := by
  rintro ⟨unnamed⟩
  obtain ⟨technique, id_eq⟩ := named
  exact unnamed technique id_eq

/-- The fault of fingerprints is one of their kind, or else one of their value. -/
theorem fails_of_fingerprintFault? {technique : Technique} (named : technique.id = id)
    (fault : override.fingerprintFault? id technique = some error) :
    Fails id override .kind error ∨
      Fails id override .value error ∧ ∀ other, ¬Fails id override .kind other := by
  unfold fingerprintFault? at fault
  by_cases isSymbols : technique = .symbols
  · have id_eq : id = Technique.symbols.id := isSymbols ▸ named.symm
    rw [if_pos isSymbols] at fault
    cases texts : override.patterns with
    | some patterns =>
        have error_eq : ConfigError.needsRegex id = error := by simpa [texts] using fault
        exact .inl (error_eq ▸ .texts id_eq (by simp [texts]))
    | none =>
        cases given : override.regex with
        | none => simp [texts, given] at fault
        | some source =>
            obtain ⟨compiled, error_eq⟩ :
                Regex.compile? source = none ∧ ConfigError.invalidRegex id source = error := by
              simpa [texts, given] using fault
            refine .inr ⟨error_eq ▸ .unreadable id_eq given compiled, ?_⟩
            intro other fails
            cases fails with
            | texts _ present => exact present texts
            | regex _ id_ne => exact id_ne id_eq
  · have id_ne : id ≠ Technique.symbols.id := Technique.ne_symbols_id named isSymbols
    rw [if_neg isSymbols] at fault
    cases given : override.regex with
    | some source =>
        have error_eq : ConfigError.needsPatterns id = error := by simpa [given] using fault
        exact .inl (error_eq ▸ .regex ⟨technique, named⟩ id_ne (by simp [given]))
    | none =>
        cases texts : override.patterns with
        | none => simp [texts, given] at fault
        | some patterns =>
            obtain ⟨useless, error_eq⟩ :
                (patterns = [] ∨ "" ∈ patterns) ∧ ConfigError.emptyPatterns id = error := by
              simpa [texts, given] using fault
            refine .inr ⟨error_eq ▸ .useless ⟨technique, named⟩ id_ne texts useless, ?_⟩
            intro other fails
            cases fails with
            | texts id_eq => exact id_ne id_eq
            | regex _ _ present => exact present given

/-- Where the fingerprints have no fault, only the identifier and the room are left to fail. -/
theorem check_eq_of_fingerprintFault?_eq_none {technique : Technique} (named : technique.id = id)
    (faultless : override.fingerprintFault? id technique = none) {check : EntryCheck}
    (fails : Fails id override check error) : check = .name ∨ check = .room := by
  by_cases isSymbols : technique = .symbols
  · have id_eq : id = Technique.symbols.id := isSymbols ▸ named.symm
    rw [isSymbols, fingerprintFault?_symbols_iff] at faultless
    obtain ⟨noTexts, compiles⟩ := faultless
    cases fails with
    | unknown => exact .inl rfl
    | full => exact .inr rfl
    | texts _ present => exact absurd noTexts present
    | regex _ id_ne => exact absurd id_eq id_ne
    | unreadable _ given unread => simpa [unread] using compiles _ given
    | useless _ id_ne => exact absurd id_eq id_ne
  · have id_ne : id ≠ Technique.symbols.id := Technique.ne_symbols_id named isSymbols
    rw [fingerprintFault?_of_ne_symbols isSymbols] at faultless
    obtain ⟨noRegex, texts⟩ := faultless
    cases fails with
    | unknown => exact .inl rfl
    | full => exact .inr rfl
    | texts id_eq => exact absurd id_eq id_ne
    | regex _ _ present => exact absurd noRegex present
    | unreadable id_eq => exact absurd id_eq id_ne
    | useless _ _ given useless =>
        obtain ⟨nonempty, nonemptyTexts⟩ := texts _ given
        exact absurd useless (not_or.mpr ⟨nonempty, nonemptyTexts⟩)

/-- The reported fault of an entry is that of the first check that fails. -/
theorem firstFails_of_fault? (fault : override.fault? id = some error) :
    FirstFails id override error := by
  unfold fault? at fault
  cases found : Technique.ofId? id with
  | none =>
      have error_eq : ConfigError.unknownTechnique id = error := by simpa [found] using fault
      have unnamed (technique : Technique) : technique.id ≠ id := by
        intro named
        rw [Technique.ofId?_eq_some_iff.mpr named] at found
        nomatch found
      exact ⟨.name, error_eq ▸ .unknown unnamed, fun _ _ _ => Nat.zero_le _⟩
  | some technique =>
      have named : technique.id = id := Technique.ofId?_eq_some_iff.mp found
      have known := @not_fails_name id override ⟨technique, named⟩
      rw [found] at fault
      cases ofFingerprints : override.fingerprintFault? id technique with
      | some other =>
          obtain rfl : other = error := by simpa [ofFingerprints] using fault
          rcases fails_of_fingerprintFault? named ofFingerprints with kind | ⟨value, noKind⟩
          · refine ⟨.kind, kind, fun earlier other fails => ?_⟩
            cases earlier with
            | name => exact absurd fails (known other)
            | kind | value | room => decide
          · refine ⟨.value, value, fun earlier other fails => ?_⟩
            cases earlier with
            | name => exact absurd fails (known other)
            | kind => exact absurd fails (noKind other)
            | value | room => decide
      | none =>
          obtain ⟨full, error_eq⟩ : override.cap = some 0 ∧ ConfigError.noCap id = error := by
            simpa [ofFingerprints] using fault
          refine ⟨.room, error_eq ▸ .full full, fun earlier other fails => ?_⟩
          rcases check_eq_of_fingerprintFault?_eq_none named ofFingerprints fails with rfl | rfl
          · exact absurd fails (known other)
          · exact Nat.le_refl _

theorem not_fails_of_fault?_eq_none (faultless : override.fault? id = none) (check : EntryCheck)
    (other : ConfigError) : ¬Fails id override check other := by
  intro fails
  unfold fault? at faultless
  cases found : Technique.ofId? id with
  | none => simp [found] at faultless
  | some technique =>
      have named : technique.id = id := Technique.ofId?_eq_some_iff.mp found
      rw [found] at faultless
      cases ofFingerprints : override.fingerprintFault? id technique with
      | some fault => simp [ofFingerprints] at faultless
      | none =>
          have room : override.cap ≠ some 0 := by simpa [ofFingerprints] using faultless
          rcases check_eq_of_fingerprintFault?_eq_none named ofFingerprints fails with rfl | rfl
          · exact not_fails_name ⟨technique, named⟩ other fails
          · cases fails with
            | full cap_eq => exact room cap_eq

theorem fault?_eq_some_iff : override.fault? id = some error ↔ FirstFails id override error := by
  refine ⟨firstFails_of_fault?, fun first => ?_⟩
  cases outcome : override.fault? id with
  | none =>
      obtain ⟨check, fails, -⟩ := first
      exact absurd fails (not_fails_of_fault?_eq_none outcome check error)
  | some other => rw [(firstFails_of_fault? outcome).unique first]

theorem legal_iff_suits :
    Legal id override ↔
      ∃ technique, Technique.ofId? id = some technique ∧ override.Suits technique := by
  constructor
  · rintro ⟨⟨technique, named⟩, room, ⟨id_eq, noTexts, compiles⟩ | ⟨id_ne, noRegex, texts⟩⟩
    · refine ⟨.symbols, Technique.ofId?_eq_some_iff.mpr id_eq.symm, ?_⟩
      exact
        { noPatterns := fun _ => noTexts
          noRegex := fun other => absurd rfl other
          compiles := compiles
          nonempty := by simp [noTexts]
          nonemptyTexts := by simp [noTexts]
          cap_ne_zero := room }
    · refine ⟨technique, Technique.ofId?_eq_some_iff.mpr named, ?_⟩
      exact
        { noPatterns := fun isSymbols => absurd (isSymbols ▸ named.symm) id_ne
          noRegex := fun _ => noRegex
          compiles := by simp [noRegex]
          nonempty := fun patterns given => (texts patterns given).1
          nonemptyTexts := fun patterns given empty => (texts patterns given).2 "" empty rfl
          cap_ne_zero := room }
  · rintro ⟨technique, found, suits⟩
    have named : technique.id = id := Technique.ofId?_eq_some_iff.mp found
    refine ⟨⟨technique, named⟩, suits.cap_ne_zero, ?_⟩
    by_cases isSymbols : technique = .symbols
    · exact .inl ⟨isSymbols ▸ named.symm, suits.noPatterns isSymbols, suits.compiles⟩
    · refine .inr ⟨Technique.ne_symbols_id named isSymbols, suits.noRegex isSymbols, ?_⟩
      intro patterns given
      refine ⟨suits.nonempty patterns given, fun pattern member empty => ?_⟩
      exact suits.nonemptyTexts patterns given (empty ▸ member)

theorem fault?_eq_none_iff_legal : override.fault? id = none ↔ Legal id override :=
  fault?_eq_none_iff.trans legal_iff_suits.symm

end Override

namespace Config

theorem findSome?_fault?_eq_some_iff {overrides : Overrides} {error : ConfigError} :
    (overrides.entries.findSome? fun entry => entry.2.fault? entry.1) = some error ↔
      ∃ entry ∈ overrides.entries, Override.FirstFails entry.1 entry.2 error ∧
        ∀ other ∈ overrides.entries, ¬Override.Legal other.1 other.2 →
          other = entry ∨ Utf8.Precedes entry.1 other.1 := by
  rw [List.findSome?_eq_some_iff]
  constructor
  · rintro ⟨front, entry, back, entries_eq, fault, faultless⟩
    have increasing := overrides.increasing
    rw [entries_eq] at increasing ⊢
    have later := (List.pairwise_cons.mp (List.pairwise_append.mp increasing).2.1).1
    refine ⟨entry, by simp, Override.fault?_eq_some_iff.mp fault, fun other member offends => ?_⟩
    rcases List.mem_append.mp member with inFront | inRest
    · exact absurd (Override.fault?_eq_none_iff_legal.mp (faultless other inFront)) offends
    · rcases List.mem_cons.mp inRest with same | inBack
      · exact .inl same
      · exact .inr (Utf8.precedes_of_lt (later other inBack))
  · rintro ⟨entry, member, first, least⟩
    obtain ⟨front, back, entries_eq⟩ := List.append_of_mem member
    refine ⟨front, entry, back, entries_eq, Override.fault?_eq_some_iff.mpr first, ?_⟩
    intro other inFront
    have increasing := overrides.increasing
    rw [entries_eq] at increasing
    have before : other.1 < entry.1 :=
      (List.pairwise_append.mp increasing).2.2 other inFront entry List.mem_cons_self
    have otherMember : other ∈ overrides.entries :=
      entries_eq ▸ List.mem_append_left (entry :: back) inFront
    rw [Override.fault?_eq_none_iff_legal]
    by_contra offends
    rcases least other otherMember offends with rfl | precedes
    · exact String.lt_irrefl _ before
    · exact String.lt_asymm before ((Utf8.precedes_iff_lt _ _).mp precedes)

theorem validate_eq_error_iff {config : Config} {error : ConfigError} :
    config.validate = .error error ↔ config.fault? = some error := by
  unfold validate
  cases config.fault? <;> simp

end Config

/-- A configuration is accepted exactly if its budget is not empty and every entry is legal.
Otherwise the empty budget is reported, or else the first check that fails of the entry whose
identifier has the least bytes among those that are not legal. The text of the error is the one of
the fault. The entries may be listed, or written in a file, in another order in which those of one
identifier stand as before. -/
theorem first_fault_is_reported (config : Config) :
    (config.validate = .ok () ↔
      config.timeoutSecs ≠ some 0 ∧
        ∀ entry ∈ config.detectors.entries, Override.Legal entry.1 entry.2) ∧
      (∀ error, config.validate = .error error ↔
        (config.timeoutSecs = some 0 ∧ error = .noTime) ∨
        (config.timeoutSecs ≠ some 0 ∧
          ∃ entry ∈ config.detectors.entries, Override.FirstFails entry.1 entry.2 error ∧
            ∀ other ∈ config.detectors.entries, ¬Override.Legal other.1 other.2 →
              other = entry ∨ Utf8.Precedes entry.1 other.1)) ∧
      (∀ (reasons : Reasons) (error : ConfigError),
        error.Tells reasons (error.message reasons)) ∧
      (∀ written others : List (String × Override),
        Reordered written others →
        Config.validate ⟨config.timeoutSecs, .ofList written⟩ =
          Config.validate ⟨config.timeoutSecs, .ofList others⟩) ∧
      (∀ (document : Yaml.Document) (root anchor : Option Nat) (key : Yaml.Node)
          (front back entries others : List (Yaml.Node × Yaml.Node)),
        document.toText? key = some "detectors" → entries.Perm others →
        (∀ written otherWritten,
          document.toEntries? (.mapping anchor entries) = some written →
          document.toEntries? (.mapping anchor others) = some otherWritten →
          Reordered written otherWritten) →
        (Config.ofNode? document
            (.mapping root (front ++ (key, .mapping anchor entries) :: back))).map Config.validate =
          (Config.ofNode? document
            (.mapping root (front ++ (key, .mapping anchor others) :: back))).map
              Config.validate) := by
  refine ⟨?_, fun error => ?_, ConfigError.tells_message, fun written others reordered => ?_, ?_⟩
  · simp only [Config.validate_eq_ok_iff, Override.legal_iff_suits]
  · rw [Config.validate_eq_error_iff, Config.fault?]
    by_cases noTime : config.timeoutSecs = some 0
    · rw [if_pos noTime]
      constructor
      · rintro reported
        obtain rfl := Option.some.inj reported
        exact .inl ⟨noTime, rfl⟩
      · rintro (⟨-, rfl⟩ | ⟨someTime, -⟩)
        · rfl
        · exact absurd noTime someTime
    · rw [if_neg noTime, Config.findSome?_fault?_eq_some_iff]
      constructor
      · rintro ⟨entry, member, first, least⟩
        exact .inr ⟨noTime, entry, member, first, least⟩
      · rintro (⟨empty, -⟩ | ⟨-, entry, member, first, least⟩)
        · exact absurd empty noTime
        · exact ⟨entry, member, first, least⟩
  · rw [Overrides.ofList_eq_of_reordered reordered]
  · intro document root anchor key front back entries others named perm reordered
    rw [Config.ofNode?_eq_of_perm named perm reordered]

/-- Overrides as they are written, two of them with several faults each. -/
def tangledEntries : List (String × Override) :=
  [("symbols", ⟨some [], none, some 0⟩), ("panics", ⟨some [""], some "a", some 0⟩),
    ("strings", ⟨none, none, some 7⟩)]

/-- The same written in a file, for one field only. -/
def tangledNodes : List (Yaml.Node × Yaml.Node) :=
  let text := Yaml.Node.scalar none none .plain
  [(text "symbols", .mapping none [(text "cap", text "0")]),
    (text "panics", .mapping none [(text "regex", text "a")]),
    (text "strings", .mapping none [(text "cap", text "7")])]

/-- Of two entries that are not legal, the fault of the first one in the order of the identifiers is
reported, however they are written. -/
theorem first_fault_is_reported_tangled :
    (∃ entry ∈ (Overrides.ofList tangledEntries).entries,
      Override.FirstFails entry.1 entry.2 (.needsPatterns "panics") ∧
        ∀ other ∈ (Overrides.ofList tangledEntries).entries,
          ¬Override.Legal other.1 other.2 → other = entry ∨ Utf8.Precedes entry.1 other.1) ∧
      Config.validate ⟨none, .ofList tangledEntries.reverse⟩ = .error (.needsPatterns "panics") ∧
      (Config.ofNode? ⟨none, []⟩
        (.mapping none
          [(.scalar none none .plain "detectors", .mapping none tangledNodes.reverse)])).map
            Config.validate = some (.error (.needsPatterns "panics")) := by
  have reported : Config.validate ⟨none, .ofList tangledEntries⟩ =
      .error (.needsPatterns "panics") := by decide +kernel
  obtain ⟨-, faults, -, written, file⟩ :=
    first_fault_is_reported ⟨none, .ofList tangledEntries⟩
  refine ⟨?_, ?_, ?_⟩
  · rcases (faults _).mp reported with ⟨noTime, -⟩ | ⟨-, entry, member, first, least⟩
    · nomatch noTime
    · exact ⟨entry, member, first, least⟩
  · rw [← reported]
    refine written _ _ (reordered_of_perm (List.reverse_perm _) ?_)
    decide
  · have ids : ((⟨none, []⟩ : Yaml.Document).toEntries? (.mapping none tangledNodes)).map
        (·.map Prod.fst) = some ["symbols", "panics", "strings"] := by decide +kernel
    have reorders : Option.Rel List.Perm
        ((⟨none, []⟩ : Yaml.Document).toEntries? (.mapping none tangledNodes))
        ((⟨none, []⟩ : Yaml.Document).toEntries? (.mapping none tangledNodes.reverse)) :=
      mapM_perm _ (List.reverse_perm tangledNodes).symm
    have reordered := file ⟨none, []⟩ none none (.scalar none none .plain "detectors") [] [] _ _
      rfl (List.reverse_perm tangledNodes).symm
    refine (reordered fun read otherRead reads otherReads => ?_).symm.trans (by decide +kernel)
    rw [reads, Option.map_some] at ids
    rw [reads, otherReads] at reorders
    cases reorders with
    | some perm =>
        refine reordered_of_perm perm ?_
        rw [Option.some.inj ids]
        decide

end Toolmark
