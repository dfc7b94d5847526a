import Toolmark.Proofs.Text.Utf8
import Toolmark.Text.Lowercase

/-!
# Lower case of a part

A part of a text is lowered as if it stood alone, but for its capital sigmas, which are lowered by
what stands around them. A character below 128 is lowered alone, so the lower case of a text holds
the lowered form of every such part. On bytes, lowering is a map as well.
-/

namespace Toolmark.Text

/-- The character is below 128. -/
def IsAscii (c : Char) : Prop := c.toNat < 0x80

instance (c : Char) : Decidable (IsAscii c) := inferInstanceAs (Decidable (c.toNat < 0x80))

/-- What holds of the first 128 code points holds of every character below 128. -/
theorem forall_ascii (property : Char → Prop) (table : ∀ code < 0x80, property (Char.ofNat code))
    {c : Char} (ascii : IsAscii c) : property c := by
  simpa only [Char.ofNat_toNat] using table c.toNat ascii

theorem lowerChar_ascii {c : Char} (ascii : IsAscii c) : lowerChar c = [c.toLower] :=
  forall_ascii (fun c => lowerChar c = [c.toLower]) (by decide) ascii

theorem eq_newline_of_toLower {c : Char} (ascii : IsAscii c) (newline : c.toLower = '\n') :
    c = '\n' :=
  forall_ascii (fun c => c.toLower = '\n' → c = '\n') (by decide) ascii newline

/-! ## Parts of a text -/

/-- The lower case of a part of a text between the characters before it, nearest first, and those
after it. -/
def lowerPart (before after : List Char) : List Char → List Char
  | [] => []
  | c :: rest =>
      (if c = 'Σ' then [lowerSigma before (rest ++ after)] else lowerChar c) ++
        lowerPart (c :: before) after rest

theorem lowerAfter_append (before part after : List Char) :
    lowerAfter before (part ++ after) =
      lowerPart before after part ++ lowerAfter (part.reverse ++ before) after := by
  induction part generalizing before with
  | nil => rfl
  | cons c part induction => simp [lowerAfter, lowerPart, induction]

theorem lowerPart_nil (before part : List Char) :
    lowerPart before [] part = lowerAfter before part := by
  have whole := lowerAfter_append before part []
  rwa [List.append_nil, lowerAfter, List.append_nil, eq_comm] at whole

theorem length_lowerPart (before after part : List Char) :
    (lowerPart before after part).length = (lowerPart [] [] part).length := by
  suffices same : ∀ other, (lowerPart before after part).length = (lowerPart other [] part).length
    from same []
  intro other
  induction part generalizing before other with
  | nil => rfl
  | cons c part induction =>
      simp only [lowerPart, List.length_append, induction _ (c :: other)]
      split <;> rfl

/-- Every capital sigma of a part is lowered as if the part stood alone. -/
def KeepsSigmas (before after part : List Char) : Prop :=
  ∀ front back, part = front ++ 'Σ' :: back →
    lowerSigma (front.reverse ++ before) (back ++ after) = lowerSigma front.reverse back

/-- What holds around every place of a character holds around the first place, if it is one, and
around the later ones. -/
private theorem forall_places_cons_iff {property : List Char → List Char → Prop}
    {mark c : Char} {rest : List Char} :
    (∀ front back, c :: rest = front ++ mark :: back → property front back) ↔
      (c = mark → property [] rest) ∧
        ∀ front back, rest = front ++ mark :: back → property (c :: front) back := by
  constructor
  · intro every
    refine ⟨fun isMark => every [] rest (isMark ▸ rfl), fun front back rest_eq => ?_⟩
    exact every (c :: front) back (rest_eq ▸ rfl)
  · rintro ⟨first, later⟩ front back split
    cases front with
    | nil =>
        obtain ⟨isMark, rfl⟩ := List.cons_eq_cons.mp split
        exact first isMark
    | cons d front =>
        obtain ⟨rfl, rest_eq⟩ := List.cons_eq_cons.mp split
        exact later front back rest_eq

/-- Only the capital sigmas of a part depend on the characters around it. -/
theorem lowerPart_eq_iff {before after part : List Char} :
    lowerPart before after part = lowerPart [] [] part ↔ KeepsSigmas before after part := by
  -- The characters already passed belong to the part on both sides, so they are generalized.
  suffices general : ∀ passed, lowerPart (passed ++ before) after part = lowerPart passed [] part ↔
      ∀ front back, part = front ++ 'Σ' :: back →
        lowerSigma (front.reverse ++ (passed ++ before)) (back ++ after) =
          lowerSigma (front.reverse ++ passed) back by
    simpa [KeepsSigmas] using general []
  intro passed
  induction part generalizing passed with
  | nil => simp [lowerPart]
  | cons c part induction =>
      have later := induction (c :: passed)
      simp only [List.cons_append] at later
      simp only [forall_places_cons_iff, lowerPart, List.append_nil, List.reverse_nil,
        List.nil_append, List.reverse_cons, List.append_assoc, List.cons_append, ← later]
      by_cases isSigma : c = 'Σ' <;> simp [isSigma]

instance (before after part : List Char) : Decidable (KeepsSigmas before after part) :=
  decidable_of_iff (lowerPart before after part = lowerPart [] [] part) lowerPart_eq_iff

theorem KeepsSigmas.of_not_mem {before after part : List Char} (absent : 'Σ' ∉ part) :
    KeepsSigmas before after part := by
  rintro front back rfl
  exact absurd (by simp) absent

theorem lowerAfter_ascii_append (before : List Char) {part : List Char}
    (ascii : ∀ c ∈ part, IsAscii c) (rest : List Char) :
    lowerAfter before (part ++ rest) =
      part.map Char.toLower ++ lowerAfter (part.reverse ++ before) rest := by
  induction part generalizing before with
  | nil => rfl
  | cons c part induction =>
      have first : IsAscii c := ascii c List.mem_cons_self
      have noSigma : c ≠ 'Σ' := by
        rintro rfl
        exact absurd first (by decide)
      rw [List.cons_append, lowerAfter, if_neg noSigma, lowerChar_ascii first,
        induction _ fun c member => ascii c (List.mem_cons_of_mem _ member)]
      simp

theorem toList_lowercase (text : String) :
    (lowercase text).toList = lowerAfter [] text.toList :=
  String.toList_ofList

theorem toList_lowercase_of_occurs {text : String} {before part after : List Char}
    (occurs : text.toList = before ++ part ++ after) :
    (lowercase text).toList =
      lowerPart [] (part ++ after) before ++ lowerPart before.reverse after part ++
        lowerAfter (part.reverse ++ before.reverse) after := by
  rw [toList_lowercase, occurs, List.append_assoc, lowerAfter_append, List.append_nil,
    lowerAfter_append, List.append_assoc]

theorem lowerChar_ne_nil (c : Char) : lowerChar c ≠ [] := by
  unfold lowerChar
  split <;> exact List.cons_ne_nil _ _

theorem lowercase_ne_empty {text : String} (nonempty : text ≠ "") : lowercase text ≠ "" := by
  intro empty
  have none : lowerAfter [] text.toList = [] := by
    rw [← toList_lowercase, empty]
    rfl
  cases characters : text.toList with
  | nil => exact nonempty (String.toList_eq_nil_iff.mp characters)
  | cons c rest =>
      rw [characters, lowerAfter, List.append_eq_nil_iff] at none
      split at none
      · exact List.cons_ne_nil _ _ none.1
      · exact lowerChar_ne_nil c none.1

theorem toList_lowercase_ascii {text : String} (ascii : ∀ c ∈ text.toList, IsAscii c) :
    (lowercase text).toList = text.toList.map Char.toLower := by
  have lowered := lowerAfter_ascii_append [] ascii []
  rw [List.append_nil, lowerAfter, List.append_nil] at lowered
  rw [toList_lowercase, lowered]

/-- The lower case of a text holds the lowered form of each of its parts below 128. -/
theorem infix_lowercase_ascii {part : List Char} {text : String} (ascii : ∀ c ∈ part, IsAscii c)
    (occurs : part <:+: text.toList) : part.map Char.toLower <:+: (lowercase text).toList := by
  obtain ⟨before, after, equality⟩ := occurs
  rw [toList_lowercase, ← equality, List.append_assoc, lowerAfter_append,
    lowerAfter_ascii_append _ ascii]
  exact ⟨_, _, List.append_assoc _ _ _⟩

namespace Utf8

/-! ## Bytes below 128 -/

/-- The byte with a capital letter of ASCII made small. -/
def lowerByte (byte : UInt8) : UInt8 :=
  if 0x41 ≤ byte.toNat ∧ byte.toNat ≤ 0x5A then byte + 0x20 else byte

/-- The character that a byte below 128 stands for. -/
def asciiChar (byte : UInt8) : Char := Char.ofNat byte.toNat

theorem toNat_lowerByte (byte : UInt8) :
    (lowerByte byte).toNat =
      if 0x41 ≤ byte.toNat ∧ byte.toNat ≤ 0x5A then byte.toNat + 0x20 else byte.toNat := by
  unfold lowerByte
  split
  · rw [UInt8.toNat_add]
    exact Nat.mod_eq_of_lt (by simp; omega)
  · rfl

theorem toNat_of_lowerByte_lt {byte : UInt8} (ascii : (lowerByte byte).toNat < 0x80) :
    byte.toNat < 0x80 := by
  rw [toNat_lowerByte] at ascii
  split at ascii <;> omega

theorem lowerByte_lt {byte : UInt8} (ascii : byte.toNat < 0x80) :
    (lowerByte byte).toNat < 0x80 := by
  rw [toNat_lowerByte]
  split <;> omega

theorem isAscii_asciiChar {byte : UInt8} (ascii : byte.toNat < 0x80) :
    IsAscii (asciiChar byte) := by
  have table : ∀ code < 0x80, IsAscii (Char.ofNat code) := by decide
  exact table byte.toNat ascii

theorem asciiChar_lowerByte {byte : UInt8} (ascii : byte.toNat < 0x80) :
    asciiChar (lowerByte byte) = (asciiChar byte).toLower := by
  have table : ∀ code < 0x80,
      Char.ofNat (if 0x41 ≤ code ∧ code ≤ 0x5A then code + 0x20 else code) =
        (Char.ofNat code).toLower := by
    decide
  unfold asciiChar
  rw [toNat_lowerByte]
  exact table byte.toNat ascii

theorem map_asciiChar_lowerByte {bytes : List UInt8} (ascii : ∀ byte ∈ bytes, byte.toNat < 0x80) :
    (bytes.map lowerByte).map asciiChar = (bytes.map asciiChar).map Char.toLower := by
  simp only [List.map_map]
  exact List.map_congr_left fun byte member => asciiChar_lowerByte (ascii byte member)

theorem encode_ascii {text : String} (ascii : ∀ c ∈ text.toList, IsAscii c) :
    encode text = text.toList.map fun c => UInt8.ofNat c.toNat := by
  rw [encode_eq_flatMap]
  generalize text.toList = cs at ascii
  induction cs with
  | nil => rfl
  | cons c cs induction =>
      have first : c.val.toNat ≤ 0x7F := Nat.le_of_lt_succ (ascii c List.mem_cons_self)
      have single : String.utf8EncodeChar c = [UInt8.ofNat c.toNat] := by
        unfold String.utf8EncodeChar
        exact if_pos first
      rw [List.flatMap_cons, single, induction fun c member =>
        ascii c (List.mem_cons_of_mem _ member)]
      rfl

theorem toNat_ofNat_ascii {c : Char} (ascii : IsAscii c) :
    (UInt8.ofNat c.toNat).toNat = c.toNat :=
  UInt8.toNat_ofNat_of_lt' (Nat.lt_trans ascii (by decide))

theorem encode_lt {text : String} (ascii : ∀ c ∈ text.toList, IsAscii c) :
    ∀ byte ∈ encode text, byte.toNat < 0x80 := by
  intro byte member
  rw [encode_ascii ascii] at member
  obtain ⟨c, inText, rfl⟩ := List.mem_map.mp member
  rw [toNat_ofNat_ascii (ascii c inText)]
  exact ascii c inText

theorem map_asciiChar_encode {text : String} (ascii : ∀ c ∈ text.toList, IsAscii c) :
    (encode text).map asciiChar = text.toList := by
  rw [encode_ascii ascii, List.map_map]
  refine (List.map_congr_left fun c member => ?_).trans (List.map_id _)
  exact (congrArg Char.ofNat (toNat_ofNat_ascii (ascii c member))).trans (Char.ofNat_toNat c)

theorem lt_of_same_letters {text : String} {bytes : List UInt8}
    (ascii : ∀ c ∈ text.toList, IsAscii c)
    (sameLetters : bytes.map lowerByte = (encode text).map lowerByte) :
    ∀ byte ∈ bytes, byte.toNat < 0x80 := by
  intro byte member
  have lowered : lowerByte byte ∈ (encode text).map lowerByte :=
    sameLetters ▸ List.mem_map_of_mem member
  obtain ⟨code, inCode, equality⟩ := List.mem_map.mp lowered
  apply toNat_of_lowerByte_lt
  rw [← equality]
  exact lowerByte_lt (encode_lt ascii code inCode)

/-- Bytes with the letters of a text below 128 are read as these letters, in some case. -/
theorem map_toLower_of_same_letters {text : String} {bytes : List UInt8}
    (ascii : ∀ c ∈ text.toList, IsAscii c)
    (sameLetters : bytes.map lowerByte = (encode text).map lowerByte) :
    (bytes.map asciiChar).map Char.toLower = text.toList.map Char.toLower := by
  rw [← map_asciiChar_lowerByte (lt_of_same_letters ascii sameLetters), sameLetters,
    map_asciiChar_lowerByte (encode_lt ascii), map_asciiChar_encode ascii]

end Utf8

end Toolmark.Text
