import Toolmark.Json.Decode

/-!
# Records and lists decoded

The fields of a record are found under their names if no two of them share one, and a list is
decoded item by item.
-/

namespace Toolmark.Json

@[simp]
theorem toText?_text (value : String) : toText? (text value) = some value :=
  rfl

@[simp]
theorem toBool?_bool (value : Bool) : toBool? (bool value) = some value :=
  rfl

theorem toWord?_natural {value : Nat} (isWord : value ≤ wordLimit) :
    toWord? (natural value) = some value :=
  if_pos isWord

theorem mapM_map {α β γ : Type} {encode : α → β} {decode : β → Option γ} {value : α → γ}
    {xs : List α} (reads : ∀ x ∈ xs, decode (encode x) = some (value x)) :
    (xs.map encode).mapM decode = some (xs.map value) := by
  induction xs with
  | nil => rfl
  | cons x xs induction =>
      have first := reads x List.mem_cons_self
      have later := induction fun other member => reads other (List.mem_cons_of_mem _ member)
      simp [List.mapM_cons, first, later]

theorem toList?_map {α : Type} {encode : α → Json} {decode : Json → Option α}
    {xs : List α} (reads : ∀ x ∈ xs, decode (encode x) = some x) :
    toList? decode (array (xs.map encode)) = some xs := by
  rw [toList?, mapM_map reads, List.map_id']

theorem toMembers?_record (members : List (String × Json)) :
    (record members).toMembers? = some members := by
  have reads : (record members).toMembers? = some (members.map id) := mapM_map fun _ _ => rfl
  rwa [List.map_id] at reads

theorem field?_of_mem {members : List (String × Json)} {member : String × Json}
    (distinct : (members.map Prod.fst).Nodup) (present : member ∈ members) :
    field? members member.1 = some (some member.2) := by
  have only : (members.filter fun other => other.1 = member.1) = [member] := by
    induction members with
    | nil => nomatch present
    | cons head rest induction =>
        obtain ⟨notInRest, distinctRest⟩ := List.nodup_cons.mp distinct
        rcases List.mem_cons.mp present with rfl | inRest
        · have noOther : (rest.filter fun other => other.1 = member.1) = [] := by
            refine List.filter_eq_nil_iff.mpr fun other inRest same => notInRest ?_
            exact List.mem_map.mpr ⟨other, inRest, of_decide_eq_true same⟩
          rw [List.filter_cons_of_pos (by simp), noOther]
        · have different : head.1 ≠ member.1 := fun same =>
            notInRest (same ▸ List.mem_map_of_mem inRest)
          rw [List.filter_cons_of_neg (by simpa using different)]
          exact induction distinctRest inRest
  simp only [field?, only]

end Toolmark.Json
