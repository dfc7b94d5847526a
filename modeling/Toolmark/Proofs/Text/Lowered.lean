import Toolmark.Proofs.Text.Lowercase

/-!
# Lower case of lower case

No case shift moves a code point to one that some shift moves again. So the characters of a lowered
text are their own lower case in every context, and lowering the text again changes nothing.
-/

namespace Toolmark.Text

namespace CaseShift

variable {run other : CaseShift} {code : Nat} {runs : List CaseShift}

/-! ## Images of runs -/

theorem covers_iff :
    run.covers code = true ↔
      run.first ≤ code ∧ code ≤ run.last ∧ (code - run.first) % run.step = 0 := by
  simp [covers, and_assoc]

/-- No two neighbouring code points belong to the run. -/
def isSparse (run : CaseShift) : Bool := run.step % 2 == 0 || run.first == run.last

/-- The images of the run can only stand between the code points of another run. -/
def interleaves (run other : CaseShift) : Bool :=
  run.isSparse && other.isSparse && 0 < run.move run.first &&
    (run.move run.first + other.first) % 2 == 1

/-- The look-up of an image of the run comes to nothing: it passes every run that lies below the
images or between them, until one lies above. -/
def passes (run : CaseShift) : List CaseShift → Bool
  | [] => true
  | other :: rest =>
      (Nat.blt other.last (run.move run.first) || run.interleaves other) && run.passes rest ||
        Nat.blt (run.move run.last) other.first

theorem even_sub_of_isSparse (sparse : run.isSparse = true) (covers : run.covers code = true) :
    (code - run.first) % 2 = 0 := by
  obtain ⟨first_le, le_last, spaced⟩ := covers_iff.mp covers
  simp only [isSparse, Bool.or_eq_true, beq_iff_eq] at sparse
  rcases sparse with even | single
  · have two_dvd : 2 ∣ code - run.first :=
      (Nat.dvd_of_mod_eq_zero even).trans (Nat.dvd_of_mod_eq_zero spaced)
    exact Nat.mod_eq_zero_of_dvd two_dvd
  · omega

theorem move_bounds (covers : run.covers code = true) :
    run.move run.first ≤ run.move code ∧ run.move code ≤ run.move run.last := by
  obtain ⟨first_le, le_last, -⟩ := covers_iff.mp covers
  simp only [move, Int.ofNat_eq_natCast]
  omega

/-- The image of a code point and the first code point of the other run are not both even or odd. -/
theorem covers_move_of_interleaves (interleaves : run.interleaves other = true)
    (covers : run.covers code = true) : other.covers (run.move code) = false := by
  rw [← Bool.not_eq_true]
  intro coversImage
  simp only [CaseShift.interleaves, Bool.and_eq_true, decide_eq_true_eq, beq_iff_eq] at interleaves
  obtain ⟨⟨⟨sparse, sparseOther⟩, proper⟩, odd⟩ := interleaves
  obtain ⟨first_le, -, -⟩ := covers_iff.mp covers
  obtain ⟨first_le_image, -, -⟩ := covers_iff.mp coversImage
  have even := even_sub_of_isSparse sparse covers
  have evenImage := even_sub_of_isSparse sparseOther coversImage
  simp only [move, Int.ofNat_eq_natCast] at proper odd evenImage first_le_image
  omega

theorem apply_move_of_passes (passes : run.passes runs = true) (covers : run.covers code = true) :
    apply (run.move code) runs = run.move code := by
  obtain ⟨first_le_image, image_le_last⟩ := move_bounds covers
  induction runs with
  | nil => rfl
  | cons other rest induction =>
      simp only [CaseShift.passes, Bool.or_eq_true, Bool.and_eq_true, Nat.blt_eq] at passes
      rw [apply]
      rcases passes with ⟨below | between, later⟩ | above
      · have uncovered : other.covers (run.move code) = false := by
          rw [← Bool.not_eq_true, covers_iff]
          omega
        simp [uncovered, induction later]
      · simp [covers_move_of_interleaves between covers, induction later]
      · rw [if_pos (Nat.lt_of_le_of_lt image_le_last above)]

/-! ## Code points -/

theorem apply_eq_or_exists_move (code : Nat) (runs : List CaseShift) :
    apply code runs = code ∨
      ∃ run ∈ runs, run.covers code = true ∧ apply code runs = run.move code := by
  induction runs with
  | nil => exact .inl rfl
  | cons run rest induction =>
      rw [apply]
      split
      · exact .inl rfl
      · split
        case isTrue covers => exact .inr ⟨run, List.mem_cons_self, covers, rfl⟩
        case isFalse =>
          refine induction.imp_right ?_
          rintro ⟨other, member, covers, apply_eq⟩
          exact ⟨other, List.mem_cons_of_mem run member, covers, apply_eq⟩

theorem passes_of_mem_lower : ∀ run ∈ lower, run.passes lower = true := by
  decide +kernel

theorem apply_apply (code : Nat) : apply (apply code lower) lower = apply code lower := by
  rcases apply_eq_or_exists_move code lower with same | ⟨run, member, covers, moved⟩
  · rw [same, same]
  · rw [moved]
    exact apply_move_of_passes (passes_of_mem_lower run member) covers

theorem apply_ne_of_outside {target : Nat}
    (outside : ∀ run ∈ lower, run.move run.last < target ∨ target < run.move run.first)
    (distinct : code ≠ target) : apply code lower ≠ target := by
  rcases apply_eq_or_exists_move code lower with same | ⟨run, member, covers, moved⟩
  · rwa [same]
  · obtain ⟨first_le_image, image_le_last⟩ := move_bounds covers
    have apart := outside run member
    omega

theorem apply_ne_dotted (distinct : code ≠ 'İ'.toNat) : apply code lower ≠ 'İ'.toNat :=
  apply_ne_of_outside (by decide +kernel) distinct

theorem apply_ne_newline (distinct : code ≠ '\n'.toNat) : apply code lower ≠ '\n'.toNat :=
  apply_ne_of_outside (by decide +kernel) distinct

end CaseShift

/-! ## Characters and texts -/

/-- The character is its own lower case in every context. -/
def IsLowered (c : Char) : Prop := c ≠ 'Σ' ∧ lowerChar c = [c]

instance (c : Char) : Decidable (IsLowered c) :=
  inferInstanceAs (Decidable (_ ∧ _))

theorem isLowered_of_apply_eq {c : Char} (notDotted : c ≠ 'İ')
    (apply_eq : CaseShift.apply c.toNat CaseShift.lower = c.toNat) : IsLowered c := by
  constructor
  · rintro rfl
    exact absurd apply_eq (by decide)
  · rw [lowerChar, if_neg notDotted, apply_eq, Char.ofNat_toNat]

/-- A number that is no code point stands for the character 0. -/
theorem toNat_ofNat_eq_or (code : Nat) :
    (Char.ofNat code).toNat = code ∨ Char.ofNat code = '\x00' := by
  by_cases valid : code.isValidChar
  · exact .inl (by rw [Char.ofNat, dif_pos valid]; rfl)
  · exact .inr (by rw [Char.ofNat, dif_neg valid]; rfl)

theorem isLowered_of_mem_lowerChar {c d : Char} (member : d ∈ lowerChar c) : IsLowered d := by
  unfold lowerChar at member
  split at member
  case isTrue =>
    rcases List.mem_pair.mp member with rfl | rfl
    · exact isLowered_of_apply_eq (by decide) (by decide)
    · exact isLowered_of_apply_eq (by decide) (by decide)
  case isFalse notDotted =>
    obtain rfl := List.mem_singleton.mp member
    have code_ne : c.toNat ≠ 'İ'.toNat := fun same => notDotted (Char.toNat_inj.mp same)
    rcases toNat_ofNat_eq_or (CaseShift.apply c.toNat CaseShift.lower) with code_eq | zero
    · apply isLowered_of_apply_eq
      · intro dotted_eq
        rw [dotted_eq] at code_eq
        exact CaseShift.apply_ne_dotted code_ne code_eq.symm
      · rw [code_eq, CaseShift.apply_apply]
    · rw [zero]
      decide

theorem isLowered_lowerSigma (before after : List Char) : IsLowered (lowerSigma before after) := by
  unfold lowerSigma
  split <;> decide

theorem isLowered_of_mem_lowerAfter {before cs : List Char} {d : Char}
    (member : d ∈ lowerAfter before cs) : IsLowered d := by
  induction cs generalizing before with
  | nil => nomatch member
  | cons c after induction =>
      rw [lowerAfter, List.mem_append] at member
      rcases member with first | later
      · split at first
        · exact List.mem_singleton.mp first ▸ isLowered_lowerSigma before after
        · exact isLowered_of_mem_lowerChar first
      · exact induction later

theorem lowerAfter_of_isLowered (before : List Char) {cs : List Char}
    (lowered : ∀ c ∈ cs, IsLowered c) : lowerAfter before cs = cs := by
  induction cs generalizing before with
  | nil => rfl
  | cons c after induction =>
      obtain ⟨⟨notSigma, alone⟩, later⟩ := List.forall_mem_cons.mp lowered
      rw [lowerAfter, if_neg notSigma, alone, induction (c :: before) later, List.singleton_append]

theorem isLowered_of_mem_lowercase {text : String} {c : Char}
    (member : c ∈ (lowercase text).toList) : IsLowered c := by
  rw [toList_lowercase] at member
  exact isLowered_of_mem_lowerAfter member

theorem lowercase_eq_self_iff {text : String} :
    lowercase text = text ↔ ∀ c ∈ text.toList, IsLowered c := by
  constructor
  · intro same c member
    rw [← same] at member
    exact isLowered_of_mem_lowercase member
  · intro lowered
    rw [lowercase, lowerAfter_of_isLowered [] lowered, String.ofList_toList]

/-! ## Line feeds -/

theorem newline_mem_lowerChar_iff {c : Char} : '\n' ∈ lowerChar c ↔ c = '\n' := by
  constructor
  · intro member
    by_contra other
    unfold lowerChar at member
    split at member
    case isTrue => exact absurd member (by decide)
    case isFalse =>
      have code_ne : c.toNat ≠ '\n'.toNat := fun same => other (Char.toNat_inj.mp same)
      have lowered := List.mem_singleton.mp member
      rcases toNat_ofNat_eq_or (CaseShift.apply c.toNat CaseShift.lower) with code_eq | zero
      · rw [← lowered] at code_eq
        exact CaseShift.apply_ne_newline code_ne code_eq.symm
      · rw [zero] at lowered
        nomatch lowered
  · rintro rfl
    decide

theorem newline_mem_lowerAfter_iff {before cs : List Char} :
    '\n' ∈ lowerAfter before cs ↔ '\n' ∈ cs := by
  induction cs generalizing before with
  | nil => simp [lowerAfter]
  | cons c after induction =>
      have sigma_ne : '\n' ≠ lowerSigma before after := by
        unfold lowerSigma
        split <;> decide
      rw [lowerAfter, List.mem_append, List.mem_cons, induction]
      split
      case isTrue isSigma => simp [isSigma, sigma_ne]
      case isFalse => rw [newline_mem_lowerChar_iff, eq_comm]

theorem newline_mem_lowercase_iff {text : String} :
    '\n' ∈ (lowercase text).toList ↔ '\n' ∈ text.toList := by
  rw [toList_lowercase, newline_mem_lowerAfter_iff]

/-! ## Lower case of lower case -/

theorem lowercase_lowercase (text : String) : lowercase (lowercase text) = lowercase text :=
  lowercase_eq_self_iff.mpr fun _ member => isLowered_of_mem_lowercase member

end Toolmark.Text
