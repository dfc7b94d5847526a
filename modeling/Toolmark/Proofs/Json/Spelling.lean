import Toolmark.Proofs.Json.Token

/-!
# Spellings read back

The characters that stand for a value with natural numbers and with every string in its one form,
and with blanks wherever they make no difference. The reader passes over the blanks and takes from
any of these spellings what it stands for.
-/

namespace Toolmark.Json

open Reader (isBlank pass)

/-- Characters that make no difference between the parts of a value. -/
def Blank (gap : List Char) : Prop := ∀ c ∈ gap, isBlank c = true

/-- A member of an object: its name, a colon and the characters of its value. -/
def entry (front : List Char) (name : String) (back value : List Char) : List Char :=
  front ++ (quoteText name ++ (back ++ ':' :: value))

theorem entry_append (front : List Char) (name : String) (back value rest : List Char) :
    entry front name back value ++ rest = entry front name back (value ++ rest) := by
  simp [entry]

theorem append_entry (gap front : List Char) (name : String) (back value : List Char) :
    gap ++ entry front name back value = entry (gap ++ front) name back value :=
  (List.append_assoc _ _ _).symm

theorem length_entry (front : List Char) (name : String) (back value : List Char) :
    (entry front name back value).length =
      front.length + (quoteText name).length + back.length + 1 + value.length := by
  simp only [entry, List.length_append, List.length_cons]
  omega

mutual

/-- Characters that stand for a value. -/
inductive Spells : Json → List Char → Prop where
  /-- The value `null`. -/
  | null : Spells null ['n', 'u', 'l', 'l']
  /-- The truth value of what holds. -/
  | yes : Spells (bool true) ['t', 'r', 'u', 'e']
  /-- The truth value of what does not hold. -/
  | no : Spells (bool false) ['f', 'a', 'l', 's', 'e']
  /-- A natural number. -/
  | natural (value : Nat) : Spells (natural value) (Nat.toDigits 10 value)
  /-- A text. -/
  | text (value : String) : Spells (text value) (quoteText value)
  /-- The empty list. -/
  | emptyArray {gap : List Char} (blank : Blank gap) : Spells (array []) ('[' :: (gap ++ [']']))
  /-- A list. -/
  | array {items : List Json} {chars : List Char} (spells : SpellsItems items chars) :
      Spells (array items) ('[' :: chars)
  /-- The object without members. -/
  | emptyRecord {gap : List Char} (blank : Blank gap) :
      Spells (record []) ('\x7b' :: (gap ++ ['\x7d']))
  /-- An object. -/
  | record {members : List (String × Json)} {chars : List Char}
      (spells : SpellsMembers members chars) : Spells (record members) ('\x7b' :: chars)
  /-- A value behind blanks. -/
  | behind {value : Json} {gap chars : List Char} (blank : Blank gap)
      (spells : Spells value chars) : Spells value (gap ++ chars)
  /-- A value in front of blanks. -/
  | before {value : Json} {gap chars : List Char} (blank : Blank gap)
      (spells : Spells value chars) : Spells value (chars ++ gap)

/-- Characters that stand for the items of a list, with its closing bracket. -/
inductive SpellsItems : List Json → List Char → Prop where
  /-- The last item. -/
  | last {item : Json} {chars : List Char} (spells : Spells item chars) :
      SpellsItems [item] (chars ++ [']'])
  /-- An item in front of others. -/
  | more {item : Json} {items : List Json} {chars others : List Char}
      (spells : Spells item chars) (spellsOthers : SpellsItems items others) :
      SpellsItems (item :: items) (chars ++ ',' :: others)

/-- Characters that stand for the members of an object, with its closing brace. -/
inductive SpellsMembers : List (String × Json) → List Char → Prop where
  /-- The last member. -/
  | last {name : String} {value : Json} {front back chars : List Char} (frontBlank : Blank front)
      (backBlank : Blank back) (spells : Spells value chars) :
      SpellsMembers [(name, value)] (entry front name back (chars ++ ['\x7d']))
  /-- A member in front of others. -/
  | more {name : String} {value : Json} {members : List (String × Json)}
      {front back chars others : List Char} (frontBlank : Blank front) (backBlank : Blank back)
      (spells : Spells value chars) (spellsOthers : SpellsMembers members others) :
      SpellsMembers ((name, value) :: members) (entry front name back (chars ++ ',' :: others))

end

namespace Reader

/-! ## Blanks -/

theorem pass_cons {c : Char} (notBlank : isBlank c = false) (rest : List Char) :
    pass (c :: rest) = c :: rest := by
  simp [pass, notBlank]

theorem pass_append {gap : List Char} (blank : Blank gap) (rest : List Char) :
    pass (gap ++ rest) = pass rest :=
  List.dropWhile_append_of_pos blank

theorem pass_pass (input : List Char) : pass (pass input) = pass input := by
  induction input with
  | nil => rfl
  | cons c rest induction =>
      cases blank : isBlank c with
      | false => rw [pass_cons blank, pass_cons blank]
      | true =>
          have passed : pass (c :: rest) = pass rest := by simp [pass, blank]
          rw [passed, induction]

theorem value_congr (fuel : Nat) {left right : List Char} (same : pass left = pass right) :
    value fuel left = value fuel right := by
  cases fuel with
  | zero => rfl
  | succ fuel => simp only [value, same]

theorem items_congr (fuel : Nat) {left right : List Char} (same : pass left = pass right) :
    items fuel left = items fuel right := by
  cases fuel with
  | zero => rfl
  | succ fuel => simp only [items, value_congr fuel same]

theorem members_congr (fuel : Nat) {left right : List Char} (same : pass left = pass right) :
    members fuel left = members fuel right := by
  cases fuel with
  | zero => rfl
  | succ fuel => simp only [members, same]

/-! ## Values -/

theorem ne_of_isDigit {c other : Char} (isDigit : c.isDigit = true)
    (notDigit : other.isDigit = false) : c ≠ other := by
  rintro rfl
  rw [isDigit] at notDigit
  contradiction

theorem isBlank_of_isDigit {c : Char} (isDigit : c.isDigit = true) : isBlank c = false := by
  refine Bool.eq_false_iff.mpr fun blank => ?_
  simp only [isBlank, Bool.or_eq_true, decide_eq_true_eq] at blank
  rcases blank with ((rfl | rfl) | rfl) | rfl <;> exact absurd isDigit (by decide)

theorem value_numeral (fuel : Nat) {c : Char} (isDigit : c.isDigit = true) (rest : List Char) :
    value (fuel + 1) (c :: rest) =
      (numeral (c :: rest)).map fun read => (number read.1, read.2) := by
  have different {d : Char} (notDigit : d.isDigit = false) {later : List Char}
      (equal : c :: rest = d :: later) : False :=
    ne_of_isDigit isDigit notDigit (List.cons.inj equal).1
  simp only [value, pass_cons (isBlank_of_isDigit isDigit)]
  split
  case h_1 equal => exact absurd equal (different rfl)
  case h_2 equal => exact absurd equal (different rfl)
  case h_3 equal => exact absurd equal (different rfl)
  case h_4 equal => exact absurd equal (different rfl)
  case h_5 equal => exact absurd equal (different rfl)
  case h_6 equal => exact absurd equal (different rfl)
  case h_7 => rfl

theorem value_quoteText (fuel : Nat) (text : String) (rest : List Char) :
    value (fuel + 1) (quoteText text ++ rest) = some (Json.text text, rest) := by
  have notBlank : isBlank '"' = false := rfl
  rw [quoteText, List.cons_append, List.append_assoc, List.singleton_append]
  simp only [value, pass_cons notBlank, stringBody_quoteText]
  rfl

theorem value_of_head? {input : List Char} (closed : (pass input).head? = some ']') (fuel : Nat) :
    value fuel input = none := by
  obtain ⟨rest, passed⟩ : ∃ rest, pass input = ']' :: rest := List.head?_eq_some_iff.mp closed
  cases fuel with
  | zero => rfl
  | succ fuel =>
      simp only [value, passed]
      rfl

theorem value_emptyArray (fuel : Nat) {gap : List Char} (blank : Blank gap) (rest : List Char) :
    value (fuel + 1) ('[' :: (gap ++ ']' :: rest)) = some (array [], rest) := by
  have bracket : isBlank '[' = false := rfl
  have closing : isBlank ']' = false := rfl
  simp only [value, pass_cons bracket, pass_append blank, pass_cons closing]

theorem value_emptyRecord (fuel : Nat) {gap : List Char} (blank : Blank gap) (rest : List Char) :
    value (fuel + 1) ('\x7b' :: (gap ++ '\x7d' :: rest)) = some (record [], rest) := by
  have brace : isBlank '\x7b' = false := rfl
  have closing : isBlank '\x7d' = false := rfl
  simp only [value, pass_cons brace, pass_append blank, pass_cons closing]
  rfl

section

variable {fuel : Nat} {input rest : List Char}

theorem value_array {read : List Json}
    (itemsRead : items fuel input = some (read, rest)) :
    value (fuel + 1) ('[' :: input) = some (array read, rest) := by
  have bracket : isBlank '[' = false := rfl
  simp only [value, pass_cons bracket]
  split
  case h_1 later closed =>
    have noItem := value_of_head? (List.head?_eq_some_iff.mpr ⟨later, closed⟩)
    cases fuel <;> simp [items, noItem] at itemsRead
  case h_2 => rw [items_congr fuel (pass_pass input), itemsRead, Option.map_some]

theorem value_object {read : List (Option String × Json)}
    (membersRead : members fuel input = some (read, rest)) :
    value (fuel + 1) ('\x7b' :: input) = some (object read, rest) := by
  have brace : isBlank '\x7b' = false := rfl
  simp only [value, pass_cons brace]
  split
  case h_1 later closed => cases fuel <;> simp [members, closed] at membersRead
  case h_2 => rw [members_congr fuel (pass_pass input), membersRead, Option.map_some]

/-! ## Items and members -/

variable {item : Json} {after : List Char}

theorem items_last (read : Reader.value fuel input = some (item, after))
    (closed : pass after = ']' :: rest) : items (fuel + 1) input = some ([item], rest) := by
  simp [items, read, closed]

theorem items_more (read : Reader.value fuel input = some (item, after))
    (continued : pass after = ',' :: rest) :
    items (fuel + 1) input = (items fuel rest).map fun read => (item :: read.1, read.2) := by
  simp only [items, read, Option.bind_eq_bind, Option.bind_some, continued]
  cases items fuel rest <;> rfl

theorem members_entry {front back : List Char} (frontBlank : Blank front)
    (backBlank : Blank back) (name : String)
    (read : Reader.value fuel input = some (item, after)) :
    (pass after = '\x7d' :: rest →
      members (fuel + 1) (entry front name back input) = some ([(some name, item)], rest)) ∧
    (pass after = ',' :: rest →
      members (fuel + 1) (entry front name back input) =
        (members fuel rest).map fun read => ((some name, item) :: read.1, read.2)) := by
  have quote : isBlank '"' = false := rfl
  have colon : isBlank ':' = false := rfl
  have entry_eq : pass (entry front name back input) =
      '"' :: (name.toList.flatMap escapeChar ++ '"' :: (back ++ ':' :: input)) := by
    simp only [entry, pass_append frontBlank, quoteText, List.cons_append, List.append_assoc,
      List.nil_append, pass_cons quote]
  constructor
  · intro closed
    simp [members, entry_eq, stringBody_quoteText, pass_append backBlank, pass_cons colon, read,
      closed]
  · intro continued
    simp only [members, entry_eq, stringBody_quoteText, pass_append backBlank, pass_cons colon,
      read, continued, Option.bind_eq_bind, Option.bind_some]
    cases members fuel rest <;> rfl

end

end Reader

/-! ## Spellings -/

theorem follows_append {gap rest : List Char} (blank : Blank gap) (follows : Follows rest) :
    Follows (gap ++ rest) := by
  cases gap with
  | nil => exact follows
  | cons c gap =>
      have isBlank := blank c List.mem_cons_self
      simp only [Reader.isBlank, Bool.or_eq_true, decide_eq_true_eq] at isBlank
      rcases isBlank with ((rfl | rfl) | rfl) | rfl <;> exact ⟨rfl, by decide⟩

theorem exists_toDigits_eq_cons (value : Nat) :
    ∃ c rest, Nat.toDigits 10 value = c :: rest ∧ c.isDigit = true := by
  obtain ⟨c, rest, digits_eq⟩ :=
    List.exists_cons_of_ne_nil (Nat.toDigits_ne_nil : Nat.toDigits 10 value ≠ [])
  have member : c ∈ Nat.toDigits 10 value := by simp [digits_eq]
  exact ⟨c, rest, digits_eq, Nat.isDigit_of_mem_toDigits (by decide) (by decide) member⟩

/-- The reader takes the characters as the value, whatever follows, if it has fuel for each of them.
What remains are at most blanks in front of what follows. -/
def ReadsAs (value : Json) (chars : List Char) : Prop :=
  ∀ fuel rest, chars.length ≤ fuel → Follows rest →
    ∃ after, Reader.value fuel (chars ++ rest) = some (value, after) ∧ pass after = pass rest

/-- No spelling is empty, so there is fuel. -/
theorem readsAs_cons {value : Json} {c : Char} {chars : List Char}
    (read : ∀ fuel rest, chars.length ≤ fuel → Follows rest →
      Reader.value (fuel + 1) (c :: (chars ++ rest)) = some (value, rest)) :
    ReadsAs value (c :: chars) := by
  intro fuel rest enough follows
  rw [List.length_cons] at enough
  obtain ⟨less, rfl⟩ : ∃ less, fuel = less + 1 := ⟨fuel - 1, by omega⟩
  exact ⟨rest, read less rest (by omega) follows, rfl⟩

theorem readsAs_natural (value : Nat) : ReadsAs (natural value) (Nat.toDigits 10 value) := by
  obtain ⟨c, later, digits_eq, isDigit⟩ := exists_toDigits_eq_cons value
  rw [digits_eq]
  refine readsAs_cons fun fuel rest _ follows => ?_
  have read := Reader.numeral_toDigits value follows
  rw [digits_eq, List.cons_append] at read
  rw [Reader.value_numeral fuel isDigit, read]
  rfl

theorem ReadsAs.behind {value : Json} {gap chars : List Char} (blank : Blank gap)
    (readsAs : ReadsAs value chars) : ReadsAs value (gap ++ chars) := by
  intro fuel rest enough follows
  rw [List.length_append] at enough
  rw [List.append_assoc, Reader.value_congr fuel (Reader.pass_append blank _)]
  exact readsAs fuel rest (by omega) follows

theorem ReadsAs.before {value : Json} {gap chars : List Char} (blank : Blank gap)
    (readsAs : ReadsAs value chars) : ReadsAs value (chars ++ gap) := by
  intro fuel rest enough follows
  rw [List.length_append] at enough
  rw [List.append_assoc]
  obtain ⟨after, read, passed⟩ :=
    readsAs fuel (gap ++ rest) (by omega) (follows_append blank follows)
  exact ⟨after, read, passed.trans (Reader.pass_append blank rest)⟩

/-- Behind a value stands a comma or what closes a list or an object. -/
theorem ReadsAs.exists_after {value : Json} {chars : List Char} (readsAs : ReadsAs value chars)
    (c : Char) (ends : c ∈ [',', ']', '\x7d']) (rest : List Char) (fuel : Nat)
    (enough : chars.length ≤ fuel) :
    ∃ after, Reader.value fuel (chars ++ c :: rest) = some (value, after) ∧
      pass after = c :: rest := by
  have follows : Follows (c :: rest) ∧ isBlank c = false := by
    simp only [List.mem_cons, List.not_mem_nil, or_false] at ends
    rcases ends with rfl | rfl | rfl <;> exact ⟨⟨rfl, by decide⟩, rfl⟩
  obtain ⟨after, read, passed⟩ := readsAs fuel (c :: rest) enough follows.1
  exact ⟨after, read, passed.trans (Reader.pass_cons follows.2 rest)⟩

mutual

/-- A spelling of a value is read as the value. -/
theorem Spells.readsAs {value : Json} {chars : List Char} :
    Spells value chars → ReadsAs value chars
  | .null => readsAs_cons fun _ _ _ _ => rfl
  | .yes => readsAs_cons fun _ _ _ _ => rfl
  | .no => readsAs_cons fun _ _ _ _ => rfl
  | .natural value => readsAs_natural value
  | .text value => readsAs_cons fun fuel rest _ _ => Reader.value_quoteText fuel value rest
  | .emptyArray blank => readsAs_cons fun fuel rest _ _ => by
      rw [List.append_assoc]
      exact Reader.value_emptyArray fuel blank rest
  | .array spells => readsAs_cons fun fuel rest enough _ =>
      Reader.value_array (spells.items_eq fuel rest enough)
  | .emptyRecord blank => readsAs_cons fun fuel rest _ _ => by
      rw [List.append_assoc]
      exact Reader.value_emptyRecord fuel blank rest
  | .record spells => readsAs_cons fun fuel rest enough _ =>
      Reader.value_object (spells.members_eq fuel rest enough)
  | .behind blank spells => spells.readsAs.behind blank
  | .before blank spells => spells.readsAs.before blank

theorem SpellsItems.items_eq {items : List Json} {chars : List Char} :
    SpellsItems items chars → ∀ fuel rest, chars.length ≤ fuel →
      Reader.items fuel (chars ++ rest) = some (items, rest)
  | .last spells, fuel, rest, enough => by
      rw [List.length_append, List.length_singleton] at enough
      obtain ⟨less, rfl⟩ : ∃ less, fuel = less + 1 := ⟨fuel - 1, by omega⟩
      obtain ⟨after, read, closed⟩ :=
        spells.readsAs.exists_after ']' (by simp) rest less (by omega)
      rw [List.append_assoc]
      exact Reader.items_last read closed
  | @SpellsItems.more _ _ _ others spells spellsOthers, fuel, rest, enough => by
      rw [List.length_append, List.length_cons] at enough
      obtain ⟨less, rfl⟩ : ∃ less, fuel = less + 1 := ⟨fuel - 1, by omega⟩
      obtain ⟨after, read, continued⟩ :=
        spells.readsAs.exists_after ',' (by simp) (others ++ rest) less (by omega)
      rw [List.append_assoc, List.cons_append, Reader.items_more read continued,
        spellsOthers.items_eq less rest (by omega), Option.map_some]

theorem SpellsMembers.members_eq {members : List (String × Json)} {chars : List Char} :
    SpellsMembers members chars → ∀ fuel rest, chars.length ≤ fuel →
      Reader.members fuel (chars ++ rest) =
        some (members.map fun (name, value) => (some name, value), rest)
  | .last frontBlank backBlank spells, fuel, rest, enough => by
      simp only [length_entry, List.length_append, List.length_singleton] at enough
      obtain ⟨less, rfl⟩ : ∃ less, fuel = less + 1 := ⟨fuel - 1, by omega⟩
      obtain ⟨after, read, closed⟩ :=
        spells.readsAs.exists_after '\x7d' (by simp) rest less (by omega)
      rw [entry_append, List.append_assoc]
      exact (Reader.members_entry frontBlank backBlank _ read).1 closed
  | @SpellsMembers.more _ _ _ _ _ _ others frontBlank backBlank spells spellsOthers, fuel, rest,
      enough => by
      simp only [length_entry, List.length_append, List.length_cons] at enough
      obtain ⟨less, rfl⟩ : ∃ less, fuel = less + 1 := ⟨fuel - 1, by omega⟩
      obtain ⟨after, read, continued⟩ :=
        spells.readsAs.exists_after ',' (by simp) (others ++ rest) less (by omega)
      rw [entry_append, List.append_assoc, List.cons_append,
        (Reader.members_entry frontBlank backBlank _ read).2 continued,
        spellsOthers.members_eq less rest (by omega)]
      rfl

end

theorem read?_of_spells {value : Json} {text : String} (spells : Spells value text.toList) :
    read? text = some value := by
  have follows : Follows [] := trivial
  obtain ⟨after, read, passed⟩ :=
    spells.readsAs (2 * text.toList.length + 2) [] (by omega) follows
  rw [List.append_nil] at read
  simp only [read?, read, Option.bind_eq_bind, Option.bind_some, passed]
  rfl

end Toolmark.Json
