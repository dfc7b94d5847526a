/-!
# Overrides

Replacements for parts of detectors, by the identifier of a technique. The entries are kept in
increasing order of their identifiers, each identifier once.
-/

namespace Toolmark

/-- Replacements for parts of one detector. -/
structure Override where
  /-- Texts to look for. -/
  patterns : Option (List String)
  /-- A regular expression to look for. -/
  regex : Option String
  /-- The number of findings at which a scan stops. -/
  cap : Option Nat
deriving DecidableEq, Repr

namespace Override

/-- The override that replaces nothing. -/
def unchanged : Override := ⟨none, none, none⟩

end Override

/-- Overrides by identifier. -/
structure Overrides where
  /-- The entries by increasing identifier. -/
  entries : List (String × Override)
  /-- Every identifier precedes the ones behind it. -/
  increasing : entries.Pairwise fun left right => left.1 < right.1
deriving DecidableEq, Repr

namespace Overrides

/-- No overrides. -/
def empty : Overrides := ⟨[], List.Pairwise.nil⟩

/-- Increasing entries with one more, which replaces the entry of its identifier. -/
def insertEntry (id : String) (value : Override) :
    List (String × Override) → List (String × Override)
  | [] => [(id, value)]
  | entry :: rest =>
      if id < entry.1 then (id, value) :: entry :: rest
      else if entry.1 < id then entry :: insertEntry id value rest
      else (id, value) :: rest

theorem mem_insertEntry {id : String} {value : Override} {entries : List (String × Override)}
    {entry : String × Override} (member : entry ∈ insertEntry id value entries) :
    entry = (id, value) ∨ entry ∈ entries := by
  induction entries with
  | nil => simpa [insertEntry] using member
  | cons head rest hypothesis =>
      unfold insertEntry at member
      split at member
      · simpa using member
      · split at member
        · rcases List.mem_cons.mp member with rfl | inRest
          · exact .inr List.mem_cons_self
          · rcases hypothesis inRest with equal | old
            · exact .inl equal
            · exact .inr (List.mem_cons_of_mem _ old)
        · rcases List.mem_cons.mp member with equal | old
          · exact .inl equal
          · exact .inr (List.mem_cons_of_mem _ old)

theorem insertEntry_increasing {id : String} {value : Override}
    {entries : List (String × Override)}
    (increasing : entries.Pairwise fun left right => left.1 < right.1) :
    (insertEntry id value entries).Pairwise fun left right => left.1 < right.1 := by
  induction entries with
  | nil => exact List.pairwise_singleton _ _
  | cons head rest hypothesis =>
      obtain ⟨above, increasingRest⟩ := List.pairwise_cons.mp increasing
      unfold insertEntry
      split
      case isTrue below =>
        refine List.pairwise_cons.mpr ⟨fun entry member => ?_, increasing⟩
        rcases List.mem_cons.mp member with rfl | old
        · exact below
        · exact String.lt_trans below (above entry old)
      case isFalse notBelow =>
        split
        case isTrue below =>
          refine List.pairwise_cons.mpr ⟨fun entry member => ?_, hypothesis increasingRest⟩
          rcases mem_insertEntry member with rfl | old
          · exact below
          · exact above entry old
        case isFalse notAbove =>
          have equal : id = head.1 :=
            String.le_antisymm (String.not_lt.mp notAbove) (String.not_lt.mp notBelow)
          subst equal
          exact List.pairwise_cons.mpr ⟨above, increasingRest⟩

/-- The overrides with one more, which replaces the one of its identifier. -/
def insert (overrides : Overrides) (id : String) (value : Override) : Overrides :=
  ⟨insertEntry id value overrides.entries, insertEntry_increasing overrides.increasing⟩

/-- The overrides of entries in any order; of two with one identifier, the later counts. -/
def ofList (entries : List (String × Override)) : Overrides :=
  entries.foldl (fun overrides entry => overrides.insert entry.1 entry.2) empty

/-- The override of an identifier. -/
def get? (overrides : Overrides) (id : String) : Option Override :=
  (overrides.entries.find? fun entry => entry.1 = id).map (·.2)

end Overrides

end Toolmark
