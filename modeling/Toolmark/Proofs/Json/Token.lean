import Toolmark.Json.Reader

/-!
# Strings and numerals read back

Every character of a string is read back from its form, so strings are; a natural number is read
back from its digits if what stands behind them cannot continue a number.
-/

namespace Toolmark.Json

/-- What can stand behind a value: nothing that continues a number. -/
def Follows : List Char → Prop
  | [] => True
  | c :: _ => c.isDigit = false ∧ c ∉ ['.', 'e', 'E']

namespace Reader

/-! ## Strings -/

theorem hexValue?_hexDigit : ∀ value < 16, hexValue? (hexDigit value) = some value := by
  decide

theorem codes_letter {letter c : Char} (escaped : escaped? letter = some c) (rest : List Char) :
    codes ('\\' :: letter :: rest) =
      (codes rest).map fun read => (c.toNat :: read.1, read.2) := by
  have notHex : letter ≠ 'u' := by
    rintro rfl
    have none : escaped? 'u' = none := by decide
    simp [none] at escaped
  rw [codes.eq_4 _ _ fun _ _ _ _ _ isHex _ => notHex isHex]
  cases codes rest <;> simp [escaped]

theorem codes_control {c : Char} (control : c.toNat < 0x20) (rest : List Char) :
    codes ('\\' :: 'u' :: '0' :: '0' :: hexDigit (c.toNat / 16) :: hexDigit (c.toNat % 16) ::
        rest) =
      (codes rest).map fun read => (c.toNat :: read.1, read.2) := by
  have zero : hexValue? '0' = some 0 := by decide
  have high := hexValue?_hexDigit (c.toNat / 16) (by omega)
  have low := hexValue?_hexDigit (c.toNat % 16) (by omega)
  have value : c.toNat / 16 * 16 + c.toNat % 16 = c.toNat := by omega
  rw [codes]
  cases codes rest <;> simp [zero, high, low, value]

theorem codes_plain {c : Char} (noQuote : c ≠ '"') (noBackslash : c ≠ '\\')
    (noControl : ¬ c.toNat < 0x20) (rest : List Char) :
    codes (c :: rest) = (codes rest).map fun read => (c.toNat :: read.1, read.2) := by
  rw [codes.eq_5 _ _ noQuote (fun _ _ _ _ _ backslash _ => noBackslash backslash)
    fun _ _ backslash _ => noBackslash backslash]
  cases codes rest <;> simp [noBackslash, noControl]

/-- The form of a character is read as that character, whatever stands behind it. -/
theorem codes_escapeChar (c : Char) (rest : List Char) :
    codes (escapeChar c ++ rest) =
      (codes rest).map fun read => (c.toNat :: read.1, read.2) := by
  unfold escapeChar
  split
  case isTrue quote =>
    subst quote
    exact codes_letter rfl rest
  split
  case isTrue backslash =>
    subst backslash
    exact codes_letter rfl rest
  split
  case isTrue lineFeed =>
    subst lineFeed
    exact codes_letter rfl rest
  split
  case isTrue carriageReturn =>
    subst carriageReturn
    exact codes_letter rfl rest
  split
  case isTrue tab =>
    subst tab
    exact codes_letter rfl rest
  split
  case isTrue backspace =>
    subst backspace
    exact codes_letter rfl rest
  split
  case isTrue formFeed =>
    subst formFeed
    exact codes_letter rfl rest
  split
  case isTrue control => exact codes_control control rest
  case isFalse noQuote noBackslash _ _ _ _ _ noControl =>
    exact codes_plain noQuote noBackslash noControl rest

theorem codes_flatMap_escapeChar (text rest : List Char) :
    codes (text.flatMap escapeChar ++ '"' :: rest) = some (text.map Char.toNat, rest) := by
  induction text with
  | nil => rfl
  | cons c text induction =>
      rw [List.flatMap_cons, List.append_assoc, codes_escapeChar, induction]
      rfl

theorem characters_map_toNat (text : List Char) :
    characters (text.map Char.toNat) = some text := by
  induction text with
  | nil => rfl
  | cons c text induction =>
      have scalar : c.toNat < 0xD800 ∨ 0xDFFF < c.toNat := by
        rcases c.valid with low | ⟨high, _⟩
        · exact .inl low
        · exact .inr high
      have noHigh : ¬ (0xD800 ≤ c.toNat ∧ c.toNat < 0xDC00) := by omega
      have noLow : ¬ (0xDC00 ≤ c.toNat ∧ c.toNat < 0xE000) := by omega
      rw [List.map_cons]
      unfold characters
      simp [noHigh, noLow, induction, Char.ofNat_toNat]

theorem stringBody_quoteText (text : String) (rest : List Char) :
    stringBody (text.toList.flatMap escapeChar ++ '"' :: rest) = some (some text, rest) := by
  simp [stringBody, codes_flatMap_escapeChar, characters_map_toNat, String.ofList_toList]

/-! ## Natural numbers -/

theorem decimalValue_append (run : List Char) (c : Char) :
    decimalValue (run ++ [c]) = 10 * decimalValue run + (c.toNat - '0'.toNat) := by
  simp [decimalValue]

theorem toNat_digitChar : ∀ value < 10, value.digitChar.toNat - '0'.toNat = value := by
  decide

theorem decimalValue_toDigits (value : Nat) : decimalValue (Nat.toDigits 10 value) = value := by
  induction value using Nat.strongRecOn with
  | ind value induction =>
      rw [Nat.toDigits_eq_if (by decide)]
      split
      case isTrue small => simpa [decimalValue] using toNat_digitChar value small
      case isFalse large =>
        rw [decimalValue_append, induction (value / 10) (by omega),
          toNat_digitChar (value % 10) (Nat.mod_lt _ (by decide))]
        omega

theorem head?_toDigits_ne {value : Nat} (nonzero : value ≠ 0) :
    (Nat.toDigits 10 value).head? ≠ some '0' := by
  induction value using Nat.strongRecOn with
  | ind value induction =>
      rw [Nat.toDigits_eq_if (by decide)]
      split
      case isTrue small =>
        have digit : ∀ value < 10, value.digitChar = '0' → value = 0 := by decide
        simpa using fun zero => nonzero (digit value small zero)
      case isFalse large =>
        have front := induction (value / 10) (by omega) (by omega)
        obtain ⟨first, later, digits_eq⟩ :=
          List.exists_cons_of_ne_nil (Nat.toDigits_ne_nil : Nat.toDigits 10 (value / 10) ≠ [])
        simpa [digits_eq] using front

/-- The digits of a number have no needless zero. -/
theorem length_toDigits_of_head? (value : Nat)
    (zero : (Nat.toDigits 10 value).head? = some '0') : (Nat.toDigits 10 value).length = 1 := by
  by_cases isZero : value = 0
  · subst isZero
    rfl
  · exact absurd zero (head?_toDigits_ne isZero)

theorem digits_append {run rest : List Char} (nonempty : run ≠ [])
    (areDigits : ∀ c ∈ run, c.isDigit = true) (follows : Follows rest) :
    digits (run ++ rest) = some (run, rest) := by
  have stops : rest.takeWhile Char.isDigit = [] ∧ rest.dropWhile Char.isDigit = rest := by
    cases rest with
    | nil => exact ⟨rfl, rfl⟩
    | cons c rest => simp [follows.1]
  simp [digits, List.takeWhile_append_of_pos areDigits, List.dropWhile_append_of_pos areDigits,
    stops, nonempty]

theorem fraction_of_follows {rest : List Char} (follows : Follows rest) :
    fraction rest = some ([], rest) := by
  cases rest with
  | nil => rfl
  | cons c rest =>
      have noPoint : c ≠ '.' := fun point => follows.2 (by simp [point])
      simp [fraction, noPoint]

theorem exponent_of_follows {rest : List Char} (follows : Follows rest) :
    exponent rest = some ([], rest) := by
  cases rest with
  | nil => rfl
  | cons c rest =>
      have noLetter : ¬ (c = 'e' ∨ c = 'E') := fun letter =>
        follows.2 (by rcases letter with rfl | rfl <;> simp)
      simp [exponent, noLetter]

theorem numeral_toDigits (value : Nat) {rest : List Char} (follows : Follows rest) :
    numeral (Nat.toDigits 10 value ++ rest) = some (.natural value, rest) := by
  have areDigits : ∀ c ∈ Nat.toDigits 10 value, c.isDigit = true := fun c member =>
    Nat.isDigit_of_mem_toDigits (by decide) (by decide) member
  have read := digits_append Nat.toDigits_ne_nil areDigits follows
  have value_eq := decimalValue_toDigits value
  obtain ⟨first, later, digits_eq⟩ :=
    List.exists_cons_of_ne_nil (Nat.toDigits_ne_nil : Nat.toDigits 10 value ≠ [])
  have noSign : first ≠ '-' := by
    rintro rfl
    exact absurd (areDigits '-' (by simp [digits_eq])) (by decide)
  have noNeedlessZero : first = '0' → later = [] := by
    simpa [digits_eq] using length_toDigits_of_head? value
  rw [digits_eq] at read value_eq
  rw [List.cons_append] at read
  rw [digits_eq, List.cons_append]
  unfold numeral
  split
  next sign unsigned unsigned_eq =>
    split at unsigned_eq
    case h_1 later' equal => exact absurd (List.cons.inj equal).1 noSign
    case h_2 =>
      obtain ⟨rfl, rfl⟩ := Prod.mk.inj unsigned_eq
      simpa [read, fraction_of_follows follows, exponent_of_follows follows, value_eq]
        using noNeedlessZero

end Reader

end Toolmark.Json
