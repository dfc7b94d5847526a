import Mathlib.Data.List.Forall2
import Mathlib.Data.List.Nodup
import Toolmark.Proofs.Json.Decode
import Toolmark.Proofs.Json.RoundTrip

/-!
# Objects in another order

The members of an object can stand in any order, and those that are `null` can be missing. Whoever
asks for the fields of a record finds what they were.
-/

namespace Toolmark.Json

/-- A member whose value is replaced. -/
structure Change where
  /-- The name of the member. -/
  name : String
  /-- The value before. -/
  old : Json
  /-- The value after. -/
  new : Json

namespace Change

/-- The member before. -/
def before (change : Change) : String × Json := (change.name, change.old)

/-- The member after. -/
def after (change : Change) : String × Json := (change.name, change.new)

/-- A member whose value stays. -/
def unchanged (member : String × Json) : Change := ⟨member.1, member.2, member.2⟩

theorem map_before_unchanged (members : List (String × Json)) :
    (members.map unchanged).map before = members := by
  rw [List.map_map]
  exact List.map_id members

theorem map_after_unchanged (members : List (String × Json)) :
    (members.map unchanged).map after = members := by
  rw [List.map_map]
  exact List.map_id members

theorem map_fst_after (changes : List Change) :
    (changes.map after).map Prod.fst = (changes.map before).map Prod.fst := by
  rw [List.map_map, List.map_map]
  rfl

end Change

/-- The same value with the members of its objects in another order, from which members that were
`null` may be missing. -/
inductive Rearranged : Json → Json → Prop where
  /-- Every value as it is. -/
  | refl (value : Json) : Rearranged value value
  /-- An object whose members that are kept are rearranged themselves. -/
  | record {members dropped : List (String × Json)} {kept : List Change}
      (perm : members.Perm (kept.map Change.before ++ dropped))
      (null : ∀ member ∈ dropped, member.2 = null)
      (rearranged : ∀ change ∈ kept, Rearranged change.old change.new) :
      Rearranged (record members) (record (kept.map Change.after))

theorem record_injective : Function.Injective record := by
  intro left right same
  refine List.map_injective_iff.mpr ?_ (Json.object.inj same)
  rintro ⟨name, value⟩ ⟨otherName, otherValue⟩ equal
  simpa using equal

namespace Rearranged

variable {value other : Json} {members : List (String × Json)}

theorem forall_unchanged (members : List (String × Json)) :
    ∀ change ∈ members.map Change.unchanged, Rearranged change.old change.new := by
  intro change isUnchanged
  obtain ⟨member, _, rfl⟩ := List.mem_map.mp isUnchanged
  exact .refl member.2

/-- Members in another order, some that were `null` missing. -/
theorem of_perm {others dropped : List (String × Json)} (perm : members.Perm (others ++ dropped))
    (null : ∀ member ∈ dropped, member.2 = Json.null) :
    Rearranged (Json.record members) (Json.record others) := by
  rw [← Change.map_before_unchanged others] at perm
  have rearranged := Rearranged.record perm null (forall_unchanged others)
  rwa [Change.map_after_unchanged] at rearranged

theorem eq_of_ne_record (rearranged : Rearranged value other)
    (notRecord : ∀ members, value ≠ Json.record members) : other = value := by
  cases rearranged with
  | refl => rfl
  | record => exact absurd rfl (notRecord _)

theorem exists_changes (rearranged : Rearranged (Json.record members) value) :
    ∃ (kept : List Change) (dropped : List (String × Json)),
      members.Perm (kept.map Change.before ++ dropped) ∧
      (∀ member ∈ dropped, member.2 = Json.null) ∧
      (∀ change ∈ kept, Rearranged change.old change.new) ∧
      value = Json.record (kept.map Change.after) := by
  generalize original : Json.record members = object at rearranged
  cases rearranged with
  | refl =>
      refine ⟨members.map Change.unchanged, [], ?_, nofun, forall_unchanged members, ?_⟩
      · rw [Change.map_before_unchanged, List.append_nil]
      · rw [Change.map_after_unchanged, original]
  | record perm null rearranged =>
      obtain rfl := record_injective original
      exact ⟨_, _, perm, null, rearranged, rfl⟩

theorem exists_changes_of_not_null (rearranged : Rearranged (Json.record members) value)
    (notNull : ∀ member ∈ members, member.2 ≠ Json.null) :
    ∃ kept : List Change, members.Perm (kept.map Change.before) ∧
      (∀ change ∈ kept, Rearranged change.old change.new) ∧
      value = Json.record (kept.map Change.after) := by
  obtain ⟨kept, dropped, perm, null, changed, value_eq⟩ := rearranged.exists_changes
  have noneDropped : dropped = [] := List.eq_nil_iff_forall_not_mem.mpr fun member isDropped =>
    notNull member (perm.mem_iff.mpr (List.mem_append_right _ isDropped)) (null member isDropped)
  rw [noneDropped, List.append_nil] at perm
  exact ⟨kept, perm, changed, value_eq⟩

end Rearranged

theorem Plain.of_mem {members : List (String × Json)} (plain : Plain (Json.record members))
    {member : String × Json} (isMember : member ∈ members) : Plain member.2 := by
  generalize original : Json.record members = object at plain
  cases plain with
  | record plain =>
      obtain rfl := record_injective original
      exact plain member isMember
  | _ => contradiction

theorem Plain.of_rearranged {value other : Json} (rearranged : Rearranged value other)
    (plain : Plain value) : Plain other := by
  induction rearranged with
  | refl => exact plain
  | record perm _ _ induction =>
      refine .record fun member isMember => ?_
      obtain ⟨change, isKept, rfl⟩ := List.mem_map.mp isMember
      have wasMember := perm.mem_iff.mpr (List.mem_append_left _ (List.mem_map_of_mem isKept))
      exact induction change isKept (plain.of_mem wasMember)

/-! ## Fields -/

/-- The field of a rearranged record for a value of the record. -/
inductive Field : Json → Option Json → Prop where
  /-- A value that is kept. -/
  | present {value other : Json} (rearranged : Rearranged value other) : Field value (some other)
  /-- A value that is missing. -/
  | absent : Field null none

theorem field?_eq_none_of_not_mem {members : List (String × Json)} {name : String}
    (missing : name ∉ members.map Prod.fst) : field? members name = some none := by
  have noMember : (members.filter fun member => member.1 = name) = [] := by
    refine List.filter_eq_nil_iff.mpr fun member present named => missing ?_
    exact List.mem_map.mpr ⟨member, present, of_decide_eq_true named⟩
  simp only [field?, noMember]

theorem mapM_forall₂ {α β : Type} {read : α → Option β} {related : α → β → Prop} {xs : List α}
    (reads : ∀ x ∈ xs, ∃ y, read x = some y ∧ related x y) :
    ∃ ys, xs.mapM read = some ys ∧ List.Forall₂ related xs ys := by
  induction xs with
  | nil => exact ⟨[], rfl, .nil⟩
  | cons x xs induction =>
      obtain ⟨y, first, isRelated⟩ := reads x List.mem_cons_self
      obtain ⟨ys, later, areRelated⟩ := induction fun other member =>
        reads other (List.mem_cons_of_mem _ member)
      exact ⟨y :: ys, by simp [List.mapM_cons, first, later], .cons isRelated areRelated⟩

/-- The fields of a rearranged record are found in the order in which the record names them. -/
theorem Rearranged.exists_fields {members : List (String × Json)} {value : Json}
    (rearranged : Rearranged (Json.record members) value)
    (distinct : (members.map Prod.fst).Nodup) :
    ∃ fields, value.toRecord? (members.map Prod.fst) = some fields ∧
      List.Forall₂ (fun member field => Field member.2 field) members fields := by
  obtain ⟨kept, dropped, perm, null, changed, rfl⟩ := rearranged.exists_changes
  have names := perm.map Prod.fst
  rw [List.map_append] at names
  obtain ⟨distinctBefore, _, apart⟩ := List.nodup_append'.mp (names.nodup distinct)
  have distinctAfter : ((kept.map Change.after).map Prod.fst).Nodup := by
    rwa [Change.map_fst_after]
  have found : ∀ member ∈ members,
      ∃ field, field? (kept.map Change.after) member.1 = some field ∧ Field member.2 field := by
    intro member present
    rcases List.mem_append.mp (perm.mem_iff.mp present) with inKept | inDropped
    · obtain ⟨change, isKept, rfl⟩ := List.mem_map.mp inKept
      exact ⟨some change.new, field?_of_mem distinctAfter (List.mem_map_of_mem isKept),
        .present (changed change isKept)⟩
    · have missing : member.1 ∉ (kept.map Change.after).map Prod.fst := by
        rw [Change.map_fst_after]
        exact fun inKept => apart inKept (List.mem_map_of_mem inDropped)
      rw [null member inDropped]
      exact ⟨none, field?_eq_none_of_not_mem missing, .absent⟩
  obtain ⟨fields, read, areFields⟩ := mapM_forall₂ found
  refine ⟨fields, ?_, areFields⟩
  change ((Json.record (kept.map Change.after)).toMembers?.bind fun members =>
    _) = _
  rw [toMembers?_record, Option.bind_some, List.mapM_map]
  exact read

theorem Rearranged.toWord?_eq {number : Nat} {value : Json}
    (rearranged : Rearranged (natural number) value) (isWord : number ≤ wordLimit) :
    value.toWord? = some number := by
  rw [rearranged.eq_of_ne_record fun _ => nofun]
  exact toWord?_natural isWord

theorem Rearranged.toText?_eq {content : String} {value : Json}
    (rearranged : Rearranged (text content) value) : value.toText? = some content := by
  rw [rearranged.eq_of_ne_record fun _ => nofun]
  rfl

theorem Rearranged.toTexts?_eq {texts : List String} {value : Json}
    (rearranged : Rearranged (array (texts.map text)) value) :
    value.toList? toText? = some texts := by
  rw [rearranged.eq_of_ne_record fun _ => nofun]
  exact toList?_map fun _ _ => rfl

section

variable {α : Type} {decode : Json → Option α} {value : Json} {field : Option Json}

theorem defaulted_of_field (fallback : α) {decoded : α} (isField : Field value field)
    (notNull : value ≠ null)
    (reads : ∀ other, Rearranged value other → decode other = some decoded) :
    defaulted fallback decode field = some decoded := by
  cases isField with
  | present rearranged => exact reads _ rearranged
  | absent => exact absurd rfl notNull

theorem toOption?_of_some {decoded : α} (notNull : decode null = none)
    (reads : decode value = some decoded) : toOption? decode value = some (some decoded) := by
  cases value with
  | null =>
      rw [notNull] at reads
      contradiction
  | _ => simp [toOption?, reads]

/-- A value that may be absent is decoded as what it was, whether it is missing or `null`. -/
theorem defaulted_optional {encode : α → Json} {content : Option α}
    (isField : Field (optional (content.map encode)) field) (notNull : decode null = none)
    (reads : ∀ decoded ∈ content, ∀ other, Rearranged (encode decoded) other →
      decode other = some decoded) :
    defaulted none (toOption? decode) field = some content := by
  cases content with
  | none =>
      cases isField with
      | present rearranged =>
          rw [rearranged.eq_of_ne_record fun _ => nofun]
          rfl
      | absent => rfl
  | some decoded =>
      have readsContent := reads decoded rfl
      have isNotNull : encode decoded ≠ null := by
        intro isNull
        have read := readsContent null (isNull ▸ .refl _)
        rw [notNull] at read
        contradiction
      exact defaulted_of_field none isField isNotNull fun other rearranged =>
        toOption?_of_some notNull (readsContent other rearranged)

end

end Toolmark.Json
