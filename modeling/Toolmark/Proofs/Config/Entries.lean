import Mathlib.Data.List.Nodup
import Toolmark.Config.Yaml
import Toolmark.Proofs.Config

/-!
# Entries of overrides

Overrides are determined by what each identifier stands for. An insertion changes that for one
identifier, so of entries inserted one after another the last one of each identifier counts, whatever
stands between. Entries can be written in any order that keeps the order of those of one identifier.
-/

namespace Toolmark

/-! ## Items read one by one -/

theorem mapM_perm {α β : Type} (read : α → Option β) {xs ys : List α} (perm : xs.Perm ys) :
    Option.Rel List.Perm (xs.mapM read) (ys.mapM read) := by
  induction perm with
  | nil => exact .some .nil
  | @cons x xs ys _ induction =>
      rw [List.mapM_cons, List.mapM_cons]
      generalize xs.mapM read = front at induction
      generalize ys.mapM read = back at induction
      cases read x with
      | none => exact .none
      | some y =>
          cases induction with
          | none => exact .none
          | some perm => exact .some (perm.cons y)
  | swap x y rest =>
      simp only [List.mapM_cons]
      cases read x with
      | none => cases read y <;> exact .none
      | some first =>
          cases read y with
          | none => exact .none
          | some second =>
              cases rest.mapM read with
              | none => exact .none
              | some others => exact .some (.swap first second others)
  | @trans xs ys zs _ _ induction otherInduction =>
      generalize xs.mapM read = first at induction
      generalize ys.mapM read = second at induction otherInduction
      generalize zs.mapM read = third at otherInduction
      cases induction with
      | none => exact otherInduction
      | some perm =>
          cases otherInduction with
          | some otherPerm => exact .some (perm.trans otherPerm)

/-- Entries in another order, in which those of one identifier stand as before. -/
def Reordered {α : Type} (written others : List (String × α)) : Prop :=
  ∀ id, (written.filter fun entry => entry.1 = id) = others.filter fun entry => entry.1 = id

/-- Of entries whose values are read, those of one identifier are the ones read from it. -/
theorem mapM_filter_of_mapM {α β : Type} {read : α → Option β} {written : List (String × α)}
    {entries : List (String × β)}
    (reads : (written.mapM fun entry => (read entry.2).map fun value => (entry.1, value)) =
      some entries) (id : String) :
    ((written.filter fun entry => entry.1 = id).mapM fun entry =>
      (read entry.2).map fun value => (entry.1, value)) =
        some (entries.filter fun entry => entry.1 = id) := by
  induction written generalizing entries with
  | nil =>
      obtain rfl : [] = entries := Option.some.inj reads
      rfl
  | cons entry written induction =>
      rw [List.mapM_cons] at reads
      cases first : read entry.2 with
      | none => simp [first] at reads
      | some value =>
          cases later : written.mapM fun entry => (read entry.2).map fun value => (entry.1, value) with
          | none => simp [first, later] at reads
          | some others =>
              obtain rfl : (entry.1, value) :: others = entries := by
                simpa [first, later] using reads
              by_cases named : entry.1 = id
              · rw [List.filter_cons_of_pos (by simpa using named), List.mapM_cons, first,
                  induction later, List.filter_cons_of_pos (by simpa using named)]
                rfl
              · rw [List.filter_cons_of_neg (by simpa using named), induction later,
                  List.filter_cons_of_neg (by simpa using named)]

theorem reordered_of_perm {α : Type} {written others : List (String × α)}
    (perm : written.Perm others) (distinct : (written.map Prod.fst).Nodup) :
    Reordered written others := by
  intro id
  have single : (written.filter fun entry => entry.1 = id).Pairwise fun _ _ => False := by
    refine ((List.pairwise_map.mp distinct).filter _).imp_of_mem fun member otherMember differ => ?_
    have named := List.of_mem_filter member
    have otherNamed := List.of_mem_filter otherMember
    exact differ ((of_decide_eq_true named).trans (of_decide_eq_true otherNamed).symm)
  have filtered := perm.filter fun entry => entry.1 = id
  have otherSingle := filtered.pairwise single fun impossible => impossible
  exact filtered.eq_of_pairwise (fun _ _ _ _ impossible => impossible.elim) single otherSingle

namespace Overrides

variable {overrides left right : Overrides} {id : String} {override : Override}

/-! ## Look-up -/

theorem nodup_ids (overrides : Overrides) : (overrides.entries.map Prod.fst).Nodup := by
  refine (List.pairwise_map.mpr overrides.increasing).imp fun below same => ?_
  exact String.lt_irrefl _ (same ▸ below)

theorem get?_eq_some_iff :
    overrides.get? id = some override ↔ (id, override) ∈ overrides.entries := by
  refine ⟨mem_of_get?, fun member => ?_⟩
  unfold get?
  cases found : overrides.entries.find? fun entry => entry.1 = id with
  | none => exact absurd (by simp) (List.find?_eq_none.mp found _ member)
  | some entry =>
      have named : entry.1 = id := by simpa using List.find?_some found
      have entry_eq : entry = (id, override) :=
        List.inj_on_of_nodup_map overrides.nodup_ids (List.mem_of_find?_eq_some found) member named
      rw [entry_eq, Option.map_some]

theorem ext_get? (same : ∀ id, left.get? id = right.get? id) : left = right := by
  have members (entry : String × Override) : entry ∈ left.entries ↔ entry ∈ right.entries := by
    rw [← get?_eq_some_iff, ← get?_eq_some_iff, same]
  have perm : left.entries.Perm right.entries :=
    (List.perm_ext_iff_of_nodup left.nodup_ids.of_map right.nodup_ids.of_map).mpr members
  have entries_eq : left.entries = right.entries :=
    perm.eq_of_pairwise (fun _ _ _ _ below above => absurd above (String.lt_asymm below))
      left.increasing right.increasing
  obtain ⟨_, _⟩ := left
  obtain ⟨_, _⟩ := right
  simpa using entries_eq

/-! ## Insertion -/

theorem find?_insertEntry (id other : String) (value : Override)
    (entries : List (String × Override)) :
    (insertEntry id value entries).find? (fun entry => entry.1 = other) =
      if id = other then some (id, value) else entries.find? fun entry => entry.1 = other := by
  induction entries with
  | nil =>
      by_cases same : id = other <;> simp [insertEntry, same]
  | cons head rest induction =>
      unfold insertEntry
      split
      case isTrue below =>
        by_cases same : id = other <;> simp [same]
      case isFalse notBelow =>
        split
        case isTrue below =>
          rw [List.find?_cons, List.find?_cons, induction]
          by_cases first : head.1 = other
          · have distinct : id ≠ other := by
              rintro rfl
              exact String.lt_irrefl _ (first ▸ below)
            simp [first, distinct]
          · simp [first]
        case isFalse notAbove =>
          have head_eq : id = head.1 :=
            String.le_antisymm (String.not_lt.mp notAbove) (String.not_lt.mp notBelow)
          by_cases same : id = other
          · simp [same]
          · simp [same, ← head_eq]

theorem get?_insert (overrides : Overrides) (id other : String) (value : Override) :
    (overrides.insert id value).get? other =
      if id = other then some value else overrides.get? other := by
  unfold get? insert
  rw [find?_insertEntry]
  split <;> rfl

/-- Overrides with more entries, inserted one after another. -/
def insertAll (overrides : Overrides) (written : List (String × Override)) : Overrides :=
  written.foldl (fun overrides entry => overrides.insert entry.1 entry.2) overrides

/-- The last entry of an identifier counts. -/
theorem get?_insertAll (overrides : Overrides) (written : List (String × Override)) (id : String) :
    (overrides.insertAll written).get? id =
      ((written.filter fun entry => entry.1 = id).getLast?.map Prod.snd).or
        (overrides.get? id) := by
  induction written generalizing overrides with
  | nil => rfl
  | cons entry written induction =>
      have rest := induction (overrides.insert entry.1 entry.2)
      rw [get?_insert] at rest
      by_cases named : entry.1 = id
      · rw [if_pos named] at rest
        rw [List.filter_cons_of_pos (by simpa using named), List.getLast?_cons]
        cases found : (written.filter fun entry => entry.1 = id).getLast? <;>
          simpa [insertAll, found] using rest
      · rw [if_neg named] at rest
        rw [List.filter_cons_of_neg (by simpa using named)]
        exact rest

theorem ofList_eq_of_reordered {written others : List (String × Override)}
    (reordered : Reordered written others) : ofList written = ofList others := by
  refine ext_get? fun id => ?_
  rw [show ofList written = empty.insertAll written from rfl, get?_insertAll, reordered]
  exact (get?_insertAll empty others id).symm

theorem getLast?_filter_of_nodup {written : List (String × Override)}
    (distinct : (written.map Prod.fst).Nodup) (id : String) :
    (written.filter fun entry => entry.1 = id).getLast? =
      written.find? fun entry => entry.1 = id := by
  induction written with
  | nil => rfl
  | cons entry written induction =>
      rw [List.map_cons, List.nodup_cons] at distinct
      by_cases named : entry.1 = id
      · have none_later : (written.filter fun entry => entry.1 = id) = [] := by
          refine List.filter_eq_nil_iff.mpr fun other member sameId => distinct.1 ?_
          have other_id : other.1 = id := by simpa using sameId
          exact List.mem_map.mpr ⟨other, member, other_id.trans named.symm⟩
        simp [named, none_later]
      · simp [named, induction distinct.2]

/-! ## Documents -/

/-- The entries of a mapping can be reordered as long as those of one identifier keep their order. -/
theorem ofNode?_eq_of_perm {document : Yaml.Document} {anchor otherAnchor : Option Nat}
    {entries others : List (Yaml.Node × Yaml.Node)} (perm : entries.Perm others)
    (reordered : ∀ written otherWritten,
      document.toEntries? (.mapping anchor entries) = some written →
      document.toEntries? (.mapping otherAnchor others) = some otherWritten →
      Reordered written otherWritten) :
    ofNode? document (.mapping anchor entries) =
      ofNode? document (.mapping otherAnchor others) := by
  have keys : Option.Rel List.Perm (document.toEntries? (.mapping anchor entries))
      (document.toEntries? (.mapping otherAnchor others)) := mapM_perm _ perm
  unfold ofNode?
  generalize document.toEntries? (.mapping anchor entries) = front at keys reordered
  generalize document.toEntries? (.mapping otherAnchor others) = back at keys reordered
  cases keys with
  | none => rfl
  | @some front back perm =>
      let value (entry : String × Yaml.Node) : Option (String × Override) :=
        (Override.ofNode? document entry.2).map fun override => (entry.1, override)
      have values : Option.Rel List.Perm (front.mapM value) (back.mapM value) :=
        mapM_perm value perm
      have reorderedValues (first second) (reads : front.mapM value = some first)
          (otherReads : back.mapM value = some second) : Reordered first second := by
        intro id
        apply Option.some.inj
        rw [← mapM_filter_of_mapM reads, ← mapM_filter_of_mapM otherReads,
          reordered front back rfl rfl]
      change ((front.mapM value).bind fun read => some (ofList read)) =
        (back.mapM value).bind fun read => some (ofList read)
      generalize front.mapM value = first at values reorderedValues
      generalize back.mapM value = second at values reorderedValues
      cases values with
      | none => rfl
      | some => exact congrArg some (ofList_eq_of_reordered (reorderedValues _ _ rfl rfl))

end Overrides

namespace Yaml.Document

theorem toEntries?_append_cons {document : Document} {anchor : Option Nat} {key node : Node}
    {name : String} (named : document.toText? key = some name) (front back : List (Node × Node)) :
    document.toEntries? (.mapping anchor (front ++ (key, node) :: back)) =
      (document.toEntries? (.mapping anchor front)).bind fun first =>
        (document.toEntries? (.mapping anchor back)).map fun second =>
          first ++ (name, node) :: second := by
  let read (entry : Node × Node) : Option (String × Node) :=
    (document.toText? entry.1).map fun key => (key, entry.2)
  have entry : read (key, node) = some (name, node) := by simp [read, named]
  change (front ++ (key, node) :: back).mapM read =
    (front.mapM read).bind fun first =>
      (back.mapM read).map fun second => first ++ (name, node) :: second
  rw [List.mapM_append, List.mapM_cons, entry]
  cases front.mapM read with
  | none => rfl
  | some _ => cases back.mapM read <;> rfl

variable {front back : List (String × Node)} {name : String}

theorem field?_append_cons_of_ne {value : Node} {other : String} (distinct : name ≠ other) :
    field? (front ++ (name, value) :: back) other = field? (front ++ back) other := by
  simp [field?, distinct]

theorem field?_append_cons {value other : Node} {relation : Node → Node → Prop}
    (related : relation value other) :
    Option.Rel (Option.Rel relation) (field? (front ++ (name, value) :: back) name)
      (field? (front ++ (name, other) :: back) name) := by
  have named (node : Node) :
      ((front ++ (name, node) :: back).filter fun entry => entry.1 = name) =
        (front.filter fun entry => entry.1 = name) ++
          (name, node) :: back.filter fun entry => entry.1 = name := by
    simp
  unfold field?
  rw [named, named]
  cases front.filter fun entry => entry.1 = name with
  | nil =>
      cases back.filter fun entry => entry.1 = name with
      | nil => exact .some (.some related)
      | cons => exact .none
  | cons _ others => cases others <;> exact .none

end Yaml.Document

/-- The entries of the detectors of a written configuration can be reordered as long as those of one
identifier keep their order. -/
theorem Config.ofNode?_eq_of_perm {document : Yaml.Document} {key : Yaml.Node}
    {root anchor otherAnchor : Option Nat} {front back entries others : List (Yaml.Node × Yaml.Node)}
    (named : document.toText? key = some "detectors") (perm : entries.Perm others)
    (reordered : ∀ written otherWritten,
      document.toEntries? (.mapping anchor entries) = some written →
      document.toEntries? (.mapping otherAnchor others) = some otherWritten →
      Reordered written otherWritten) :
    ofNode? document (.mapping root (front ++ (key, .mapping anchor entries) :: back)) =
      ofNode? document (.mapping root (front ++ (key, .mapping otherAnchor others) :: back)) := by
  have overrides : Overrides.ofNode? document (.mapping anchor entries) =
      Overrides.ofNode? document (.mapping otherAnchor others) :=
    Overrides.ofNode?_eq_of_perm perm reordered
  unfold ofNode?
  rw [Yaml.Document.toEntries?_append_cons named, Yaml.Document.toEntries?_append_cons named]
  cases document.toEntries? (.mapping root front) with
  | none => rfl
  | some front =>
      cases document.toEntries? (.mapping root back) with
      | none => rfl
      | some back =>
          have timeout (node : Yaml.Node) :
              Yaml.Document.field? (front ++ ("detectors", node) :: back) "timeout_secs" =
                Yaml.Document.field? (front ++ back) "timeout_secs" :=
            Yaml.Document.field?_append_cons_of_ne (by decide)
          have detectors :
              Option.Rel (Option.Rel fun left right =>
                  Overrides.ofNode? document left = Overrides.ofNode? document right)
                (Yaml.Document.field? (front ++ ("detectors", .mapping anchor entries) :: back)
                  "detectors")
                (Yaml.Document.field? (front ++ ("detectors", .mapping otherAnchor others) :: back)
                  "detectors") :=
            Yaml.Document.field?_append_cons overrides
          simp only [Option.bind_eq_bind, Option.bind_some, Option.map_some, timeout]
          generalize Yaml.Document.field?
            (front ++ ("detectors", .mapping anchor entries) :: back) "detectors" = first
            at detectors
          generalize Yaml.Document.field?
            (front ++ ("detectors", .mapping otherAnchor others) :: back) "detectors" = second
            at detectors
          cases detectors with
          | none => rfl
          | some written =>
              cases written with
              | none => rfl
              | some same => simp only [Option.bind_some, Yaml.Document.defaulted, same]

end Toolmark
