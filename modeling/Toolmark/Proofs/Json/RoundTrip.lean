import Toolmark.Proofs.Json.Spelling

/-!
# Written values read back

The indented form of a value and its form without blanks are spellings of it, if its strings have a
text and its numbers are natural. So the value is read back from both.
-/

namespace Toolmark.Json

/-- A value of which every string has a text and every number is natural. -/
inductive Plain : Json → Prop where
  /-- The value `null`. -/
  | null : Plain null
  /-- A truth value. -/
  | bool (value : Bool) : Plain (bool value)
  /-- A natural number. -/
  | natural (value : Nat) : Plain (natural value)
  /-- A text. -/
  | text (value : String) : Plain (text value)
  /-- A list of such values. -/
  | array {items : List Json} (plain : ∀ item ∈ items, Plain item) : Plain (array items)
  /-- Such values under names. -/
  | record {members : List (String × Json)} (plain : ∀ member ∈ members, Plain member.2) :
      Plain (record members)

theorem Plain.optional {α : Type} {encode : α → Json} (plain : ∀ content, (encode content).Plain)
    (content : Option α) : (Json.optional (content.map encode)).Plain := by
  cases content with
  | none => exact .null
  | some content => exact plain content

theorem Plain.list {α : Type} {encode : α → Json} (plain : ∀ item, (encode item).Plain)
    (items : List α) : (Json.array (items.map encode)).Plain := by
  refine .array fun value member => ?_
  obtain ⟨item, _, rfl⟩ := List.mem_map.mp member
  exact plain item

/-! ## Blanks -/

theorem blank_nil : Blank [] := fun _ member => nomatch member

theorem blank_space : Blank [' '] := fun _ member => List.mem_singleton.mp member ▸ rfl

theorem blank_newline : Blank ['\n'] := fun _ member => List.mem_singleton.mp member ▸ rfl

theorem blank_indent (level : Nat) : Blank (indent level) := fun _ member =>
  List.eq_of_mem_replicate member ▸ rfl

theorem Blank.append {left right : List Char} (leftBlank : Blank left) (rightBlank : Blank right) :
    Blank (left ++ right) :=
  List.forall_mem_append.mpr ⟨leftBlank, rightBlank⟩

theorem SpellsItems.behind {items : List Json} {gap chars : List Char} (blank : Blank gap)
    (spells : SpellsItems items chars) : SpellsItems items (gap ++ chars) := by
  cases spells with
  | last spells =>
      rw [← List.append_assoc]
      exact .last (spells.behind blank)
  | more spells spellsOthers =>
      rw [← List.append_assoc]
      exact .more (spells.behind blank) spellsOthers

theorem SpellsMembers.behind {members : List (String × Json)} {gap chars : List Char}
    (blank : Blank gap) (spells : SpellsMembers members chars) :
    SpellsMembers members (gap ++ chars) := by
  cases spells with
  | last frontBlank backBlank spells =>
      rw [append_entry]
      exact .last (blank.append frontBlank) backBlank spells
  | more frontBlank backBlank spells spellsOthers =>
      rw [append_entry]
      exact .more (blank.append frontBlank) backBlank spells spellsOthers

/-! ## Items and members -/

/-- Members with their names as texts. -/
def named (members : List (String × Json)) : List (Option String × Json) :=
  members.map fun (name, value) => (some name, value)

section

variable {front gap closing : List Char} (spell : Json → List Char)

/-- Items written one after another spell the list if each of them is spelled. -/
theorem spellsItems_join (frontBlank : Blank front) (gapBlank : Blank gap)
    (closingBlank : Blank closing) {join : List Json → List Char}
    (join_last : ∀ item, join [item] = front ++ spell item)
    (join_more : ∀ item next others,
      join (item :: next :: others) =
        front ++ (spell item ++ ',' :: (gap ++ join (next :: others))))
    {items : List Json} (nonempty : items ≠ [])
    (spells : ∀ item ∈ items, Spells item (spell item)) :
    SpellsItems items (join items ++ (closing ++ [']'])) := by
  induction items with
  | nil => exact absurd rfl nonempty
  | cons item others induction =>
      have spellsItem := (spells item List.mem_cons_self).behind frontBlank
      cases others with
      | nil =>
          rw [join_last, ← List.append_assoc]
          exact .last (spellsItem.before closingBlank)
      | cons next others =>
          have later := induction (List.cons_ne_nil next others) fun other member =>
            spells other (List.mem_cons_of_mem _ member)
          have join_eq : join (item :: next :: others) ++ (closing ++ [']']) =
              (front ++ spell item) ++
                ',' :: (gap ++ (join (next :: others) ++ (closing ++ [']']))) := by
            simp [join_more]
          rw [join_eq]
          exact .more spellsItem (later.behind gapBlank)

theorem spellsMembers_join (frontBlank : Blank front) (gapBlank : Blank gap)
    (closingBlank : Blank closing) {join : List (Option String × Json) → List Char}
    (join_last : ∀ name value, join [(some name, value)] = entry front name [] (spell value))
    (join_more : ∀ name value next others,
      join ((some name, value) :: next :: others) =
        entry front name [] (spell value ++ ',' :: (gap ++ join (next :: others))))
    {members : List (String × Json)} (nonempty : members ≠ [])
    (spells : ∀ member ∈ members, Spells member.2 (spell member.2)) :
    SpellsMembers members (join (named members) ++ (closing ++ ['\x7d'])) := by
  induction members with
  | nil => exact absurd rfl nonempty
  | cons member others induction =>
      obtain ⟨name, value⟩ := member
      have spellsValue : Spells value (spell value) := spells (name, value) List.mem_cons_self
      cases others with
      | nil =>
          have named_eq : named [(name, value)] = [(some name, value)] := rfl
          rw [named_eq, join_last, entry_append, ← List.append_assoc]
          exact .last frontBlank blank_nil (spellsValue.before closingBlank)
      | cons next others =>
          have later := induction (List.cons_ne_nil next others) fun other member =>
            spells other (List.mem_cons_of_mem _ member)
          have named_eq : named ((name, value) :: next :: others) =
              (some name, value) :: (some next.1, next.2) :: named others := rfl
          rw [named_eq, join_more, entry_append, List.append_assoc, List.cons_append,
            List.append_assoc]
          exact .more frontBlank blank_nil spellsValue (later.behind gapBlank)

end

/-! ## The indented form -/

theorem pretty_array {items : List Json} (nonempty : items ≠ []) (level : Nat) :
    pretty level (array items) =
      '[' :: '\n' :: (prettyItems (level + 1) items ++ '\n' :: (indent level ++ [']'])) := by
  simp [pretty, nonempty]

theorem pretty_record {members : List (String × Json)} (nonempty : members ≠ []) (level : Nat) :
    pretty level (record members) =
      '\x7b' :: '\n' ::
        (prettyMembers (level + 1) (named members) ++ '\n' :: (indent level ++ ['\x7d'])) := by
  simp [record, named, pretty, nonempty]

/-- A plain value is spelled by its indented form at every level. -/
theorem spells_pretty {value : Json} (plain : Plain value) (level : Nat) :
    Spells value (pretty level value) := by
  induction plain generalizing level with
  | null => exact .null
  | bool value =>
      cases value with
      | true => exact .yes
      | false => exact .no
  | natural value => exact .natural value
  | text value => exact .text value
  | @array items _ induction =>
      by_cases empty : items = []
      · subst empty
        exact .emptyArray blank_nil
      · have closingBlank := blank_newline.append (blank_indent level)
        have spells : SpellsItems items
            (prettyItems (level + 1) items ++ ('\n' :: indent level ++ [']'])) := by
          refine spellsItems_join (pretty (level + 1)) (blank_indent (level + 1)) blank_newline
            closingBlank ?_ ?_ empty fun item member => induction item member (level + 1)
          · intro item
            simp [prettyItems]
          · intro item next others
            simp [prettyItems]
        rw [pretty_array empty]
        exact .array (spells.behind blank_newline)
  | @record members _ induction =>
      by_cases empty : members = []
      · subst empty
        exact .emptyRecord blank_nil
      · have closingBlank := blank_newline.append (blank_indent level)
        have spells : SpellsMembers members
            (prettyMembers (level + 1) (named members) ++ ('\n' :: indent level ++ ['\x7d'])) := by
          refine spellsMembers_join (fun value => ' ' :: pretty (level + 1) value)
            (blank_indent (level + 1)) blank_newline closingBlank ?_ ?_ empty
            fun member present => (induction member present (level + 1)).behind blank_space
          · intro name value
            simp [prettyMembers, entry]
          · intro name value next others
            simp [prettyMembers, entry]
        rw [pretty_record empty]
        exact .record (spells.behind blank_newline)

/-- A plain value is read back from its indented text. -/
theorem read?_prettyText {value : Json} (plain : Plain value) :
    read? value.prettyText = some value := by
  refine read?_of_spells ?_
  rw [prettyText, String.toList_ofList]
  exact spells_pretty plain 0

/-! ## The form without blanks -/

theorem compact_record (members : List (String × Json)) :
    compact (record members) = '\x7b' :: (compactMembers (named members) ++ ['\x7d']) := by
  rw [record, compact]
  rfl

theorem spells_compact {value : Json} (plain : Plain value) : Spells value (compact value) := by
  induction plain with
  | null => exact .null
  | bool value =>
      cases value with
      | true => exact .yes
      | false => exact .no
  | natural value => exact .natural value
  | text value => exact .text value
  | @array items _ induction =>
      rw [compact]
      by_cases empty : items = []
      · subst empty
        exact .emptyArray blank_nil
      · refine .array (spellsItems_join compact blank_nil blank_nil blank_nil ?_ ?_ empty induction)
        · intro item
          simp [compactItems]
        · intro item next others
          simp [compactItems]
  | @record members _ induction =>
      rw [compact_record]
      by_cases empty : members = []
      · subst empty
        exact .emptyRecord blank_nil
      · refine .record
          (spellsMembers_join compact blank_nil blank_nil blank_nil ?_ ?_ empty induction)
        · intro name value
          simp [compactMembers, entry]
        · intro name value next others
          simp [compactMembers, entry]

theorem read?_compactText {value : Json} (plain : Plain value) :
    read? value.compactText = some value := by
  refine read?_of_spells ?_
  rw [compactText, String.toList_ofList]
  exact spells_compact plain

end Toolmark.Json
