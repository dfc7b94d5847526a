import Toolmark.Config.Document
import Toolmark.Proofs.Config.Entries
import Toolmark.Proofs.Json.Rearranged

/-!
# Configurations read back

A configuration is read back from its JSON text, in whatever order the fields and the entries stand
and with whatever blanks between them, and whether absent parts are `null` or missing.
-/

namespace Toolmark

open Json (Rearranged Plain)

/-! ## Overrides -/

namespace Override

/-- The cap is a word. -/
def FitsWords (override : Override) : Prop := ∀ cap ∈ override.cap, cap ≤ Json.wordLimit

theorem plain_toJson (override : Override) : override.toJson.Plain := by
  refine .record ?_
  simp only [List.forall_mem_cons, List.not_mem_nil, false_implies, implies_true, and_true]
  exact ⟨Plain.optional (Plain.list .text) override.patterns,
    Plain.optional .text override.regex, Plain.optional .natural override.cap⟩

theorem ofJson?_of_rearranged {override : Override} (fits : override.FitsWords) {value : Json}
    (rearranged : Rearranged override.toJson value) : ofJson? value = some override := by
  have distinct : ["patterns", "regex", "cap"].Nodup := by decide
  obtain ⟨fields, read, areFields⟩ := rearranged.exists_fields distinct
  obtain _ | ⟨isPatterns, _ | ⟨isRegex, _ | ⟨isCap, _ | _⟩⟩⟩ := areFields
  have patterns := Json.defaulted_optional isPatterns rfl fun _ _ _ => Rearranged.toTexts?_eq
  have regex := Json.defaulted_optional isRegex rfl fun _ _ _ => Rearranged.toText?_eq
  have cap := Json.defaulted_optional isCap rfl fun cap given _ rearranged =>
    rearranged.toWord?_eq (fits cap given)
  change value.toRecord? ["patterns", "regex", "cap"] = _ at read
  simp [ofJson?, read, patterns, regex, cap]

end Override

namespace Overrides

theorem ofList_entries (overrides : Overrides) : ofList overrides.entries = overrides := by
  refine ext_get? fun id => ?_
  rw [show ofList overrides.entries = empty.insertAll overrides.entries from rfl, get?_insertAll,
    getLast?_filter_of_nodup overrides.nodup_ids]
  exact Option.or_none

/-- The member that an entry is written as. -/
def written (entry : String × Override) : String × Json := (entry.1, entry.2.toJson)

theorem toJson_eq (overrides : Overrides) :
    overrides.toJson = .record (overrides.entries.map written) :=
  rfl

/-- The entry that a member is read as. -/
def read? (member : String × Json) : Option (String × Override) :=
  (Override.ofJson? member.2).map fun override => (member.1, override)

theorem read?_written {entry : String × Override} (fits : entry.2.FitsWords) {value : Json}
    (rearranged : Rearranged entry.2.toJson value) : read? (entry.1, value) = some entry := by
  simp [read?, Override.ofJson?_of_rearranged fits rearranged]

theorem exists_perm_of_rearranged {overrides : Overrides}
    (fits : ∀ entry ∈ overrides.entries, entry.2.FitsWords) {value : Json}
    (rearranged : Rearranged overrides.toJson value) :
    ∃ members entries, value.toMembers? = some members ∧ members.mapM read? = some entries ∧
      overrides.entries.Perm entries := by
  rw [toJson_eq] at rearranged
  have notNull : ∀ member ∈ overrides.entries.map written, member.2 ≠ .null := by
    intro member isMember
    obtain ⟨entry, _, rfl⟩ := List.mem_map.mp isMember
    exact nofun
  obtain ⟨kept, perm, changed, rfl⟩ := rearranged.exists_changes_of_not_null notNull
  let entryOf (member : String × Json) : String × Override :=
    (read? member).getD (member.1, .unchanged)
  have entryOf_written : ∀ entry ∈ overrides.entries, entryOf (written entry) = entry :=
    fun entry present => by
      simp [entryOf, written, read?_written (fits entry present) (.refl _)]
  have reads : ∀ change ∈ kept, read? change.after = some (entryOf change.before) := by
    intro change isKept
    have isMember := perm.mem_iff.mpr (List.mem_map_of_mem isKept)
    obtain ⟨entry, present, before_eq⟩ := List.mem_map.mp isMember
    obtain ⟨name, old, new⟩ := change
    obtain ⟨rfl, rfl⟩ := Prod.mk.inj before_eq
    rw [← before_eq, entryOf_written entry present]
    exact read?_written (fits entry present) (changed _ isKept)
  have entries_eq : (overrides.entries.map written).map entryOf = overrides.entries := by
    rw [List.map_map]
    exact (List.map_congr_left entryOf_written).trans (List.map_id _)
  refine ⟨_, _, Json.toMembers?_record _, Json.mapM_map reads, ?_⟩
  have permRead := perm.map entryOf
  rwa [entries_eq, List.map_map] at permRead

/-- Overrides are read back from any arrangement of their entries. -/
theorem ofJson?_of_rearranged {overrides : Overrides}
    (fits : ∀ entry ∈ overrides.entries, entry.2.FitsWords) {value : Json}
    (rearranged : Rearranged overrides.toJson value) : ofJson? value = some overrides := by
  obtain ⟨members, entries, members_eq, read, perm⟩ := exists_perm_of_rearranged fits rearranged
  change (value.toMembers?.bind fun members =>
    (members.mapM read?).bind fun entries => some (ofList entries)) = _
  rw [members_eq, Option.bind_some, read, Option.bind_some,
    ← ofList_eq_of_reordered (reordered_of_perm perm overrides.nodup_ids), ofList_entries]

theorem plain_toJson (overrides : Overrides) : overrides.toJson.Plain := by
  rw [toJson_eq]
  refine .record fun member isMember => ?_
  obtain ⟨entry, _, rfl⟩ := List.mem_map.mp isMember
  exact entry.2.plain_toJson

end Overrides

/-! ## Configurations -/

namespace Config

/-- The time budget and all caps are words. -/
def FitsWords (config : Config) : Prop :=
  (∀ seconds ∈ config.timeoutSecs, seconds ≤ Json.wordLimit) ∧
    ∀ entry ∈ config.detectors.entries, entry.2.FitsWords

theorem plain_toJson (config : Config) : config.toJson.Plain := by
  refine .record ?_
  simp only [List.forall_mem_cons, List.not_mem_nil, false_implies, implies_true, and_true]
  exact ⟨Plain.optional .natural config.timeoutSecs, config.detectors.plain_toJson⟩

theorem ofJson?_of_rearranged {config : Config} (fits : config.FitsWords) {value : Json}
    (rearranged : Rearranged config.toJson value) : ofJson? value = some config := by
  have distinct : ["timeout_secs", "detectors"].Nodup := by decide
  obtain ⟨fields, read, areFields⟩ := rearranged.exists_fields distinct
  obtain _ | ⟨isTimeout, _ | ⟨isDetectors, _ | _⟩⟩ := areFields
  have timeout := Json.defaulted_optional isTimeout rfl fun seconds given _ rearranged =>
    rearranged.toWord?_eq (fits.1 seconds given)
  have detectors := Json.defaulted_of_field Overrides.empty isDetectors nofun fun _ =>
    Overrides.ofJson?_of_rearranged fits.2
  change value.toRecord? ["timeout_secs", "detectors"] = _ at read
  simp [ofJson?, read, timeout, detectors]

/-- A text from which the configuration is read, so that it is checked and applied alike. -/
def ReadBack (config : Config) (text : String) : Prop :=
  ∃ reread, ofJsonText? text = some reread ∧ reread = config ∧
    reread.validate = config.validate ∧ ∀ detectors, reread.apply detectors = config.apply detectors

theorem readBack_of_read? {config : Config} (fits : config.FitsWords) {value : Json}
    (rearranged : Rearranged config.toJson value) {text : String}
    (read : Json.read? text = some value) : config.ReadBack text := by
  refine ⟨config, ?_, rfl, rfl, fun _ => rfl⟩
  rw [ofJsonText?, read, Option.bind_some, ofJson?_of_rearranged fits rearranged]

theorem readBack_of_rearranged {config : Config} (fits : config.FitsWords) {value : Json}
    (rearranged : Rearranged config.toJson value) :
    config.ReadBack value.compactText ∧ config.ReadBack value.prettyText := by
  have plain := config.plain_toJson.of_rearranged rearranged
  exact ⟨readBack_of_read? fits rearranged (Json.read?_compactText plain),
    readBack_of_read? fits rearranged (Json.read?_prettyText plain)⟩

end Config

/-- A configuration is read back from its JSON text, with and without blanks. So it is from every
text in which its fields and its entries stand in another order, fields that are `null` may be
missing, and blanks stand between the parts as they like. -/
theorem configuration_is_read_back (config : Config) (fits : config.FitsWords) :
    (config.ReadBack config.toJson.compactText ∧ config.ReadBack config.toJson.prettyText) ∧
      ∀ value, Rearranged config.toJson value →
        (config.ReadBack value.compactText ∧ config.ReadBack value.prettyText) ∧
          ∀ text, Json.Spells value text.toList ∨ Json.read? text = some value →
            config.ReadBack text := by
  refine ⟨Config.readBack_of_rearranged fits (.refl _), fun value rearranged =>
    ⟨Config.readBack_of_rearranged fits rearranged, ?_⟩⟩
  rintro text (spells | read)
  · exact Config.readBack_of_read? fits rearranged (Json.read?_of_spells spells)
  · exact Config.readBack_of_read? fits rearranged read

/-- A configuration with absent and empty parts, a greatest cap and characters to be escaped. -/
def escapedConfig : Config :=
  ⟨none, [("", ⟨some [], none, none⟩), ("é\n\"", ⟨some ["\\"], none, some Json.wordLimit⟩)],
    by decide⟩

/-- The value of its overrides with entries and fields in another order, without what is `null`. -/
def rearrangedOverrides : Json :=
  .record
    [("é\n\"", .record [("cap", .natural Json.wordLimit), ("patterns", .array [.text "\\"])]),
      ("", .record [("patterns", .array [])])]

/-- It is read back from the text in which its overrides stand like this and its time is missing. -/
theorem configuration_is_read_back_rearranged :
    escapedConfig.ReadBack (Json.record [("detectors", rearrangedOverrides)]).compactText := by
  have fits : escapedConfig.FitsWords := by
    simp [Config.FitsWords, Override.FitsWords, escapedConfig]
  have full : Rearranged (Override.toJson ⟨some ["\\"], none, some Json.wordLimit⟩)
      (.record [("cap", .natural Json.wordLimit), ("patterns", .array [.text "\\"])]) := by
    refine @Rearranged.of_perm _ _ [("regex", .null)] ?_ (by simp)
    exact .trans (.cons _ (.swap _ _ _)) (.swap _ _ _)
  have empty : Rearranged (Override.toJson ⟨some [], none, none⟩)
      (.record [("patterns", .array [])]) :=
    @Rearranged.of_perm _ _ [("regex", .null), ("cap", .null)] (.refl _) (by simp)
  have overrides : Rearranged escapedConfig.detectors.toJson rearrangedOverrides := by
    refine @Rearranged.record _ [] [⟨"é\n\"", _, _⟩, ⟨"", _, _⟩] (.swap _ _ _) (by simp) ?_
    simpa using ⟨full, empty⟩
  have rearranged :
      Rearranged escapedConfig.toJson (.record [("detectors", rearrangedOverrides)]) := by
    refine @Rearranged.record _ [("timeout_secs", .null)] [⟨"detectors", _, _⟩] (.swap _ _ _)
      (by simp) fun change kept => ?_
    obtain rfl := List.mem_singleton.mp kept
    exact overrides
  exact ((configuration_is_read_back escapedConfig fits).2 _ rearranged).1.1

end Toolmark
