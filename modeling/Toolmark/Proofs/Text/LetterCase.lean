import Toolmark.Proofs.Text.Lowercase

/-!
# Letters in either case

The lower case of a text does not depend on the case of its letters below 128. Either form of such a
letter has the same lower case and is seen as a letter of a word, so the capital sigmas around it
are lowered alike.
-/

namespace Toolmark.Text

/-- The characters are the same, up to the case of letters below 128. -/
def SameLetters (cs ds : List Char) : Prop := cs.map Char.toLower = ds.map Char.toLower

instance (cs ds : List Char) : Decidable (SameLetters cs ds) :=
  inferInstanceAs (Decidable (cs.map Char.toLower = ds.map Char.toLower))

/-! ## One character -/

theorem toLower_of_not_isAscii {c : Char} (beyond : ¬IsAscii c) : c.toLower = c := by
  have notCapital : ¬(c.val ≥ 'A'.val ∧ c.val ≤ 'Z'.val) := by
    rintro ⟨-, atMost⟩
    have code_le : c.toNat ≤ 'Z'.toNat := UInt32.le_iff_toNat_le.mp atMost
    exact beyond (Nat.lt_of_le_of_lt code_le (by decide))
  exact dif_neg notCapital

/-- What the lower case of each character below 128 shares with the character, the lower case of
every character does. -/
theorem apply_toLower {α : Type} (f : Char → α)
    (table : ∀ code < 0x80, f (Char.ofNat code).toLower = f (Char.ofNat code)) (c : Char) :
    f c.toLower = f c := by
  by_cases ascii : IsAscii c
  · exact forall_ascii (fun c => f c.toLower = f c) table ascii
  · rw [toLower_of_not_isAscii ascii]

theorem isAscii_toLower_iff (c : Char) : IsAscii c.toLower ↔ IsAscii c := by
  simpa using apply_toLower (fun c => decide (IsAscii c)) (by decide) c

theorem lowerChar_toLower (c : Char) : lowerChar c.toLower = lowerChar c :=
  apply_toLower lowerChar (by decide) c

theorem isCased_toLower (c : Char) : isCased c.toLower = isCased c :=
  apply_toLower isCased (by decide) c

theorem isCaseIgnorable_toLower (c : Char) : isCaseIgnorable c.toLower = isCaseIgnorable c :=
  apply_toLower isCaseIgnorable (by decide) c

theorem toLower_eq_sigma_iff (c : Char) : c.toLower = 'Σ' ↔ c = 'Σ' := by
  simpa using apply_toLower (fun c => decide (c = 'Σ')) (by decide) c

/-! ## A text -/

theorem meetsCased_map_toLower (cs : List Char) :
    meetsCased (cs.map Char.toLower) = meetsCased cs := by
  induction cs with
  | nil => rfl
  | cons c cs induction =>
      cases passed : isCaseIgnorable c with
      | true => simpa [meetsCased, isCaseIgnorable_toLower, passed] using induction
      | false => simp [meetsCased, isCaseIgnorable_toLower, isCased_toLower, passed]

theorem lowerSigma_map_toLower (before after : List Char) :
    lowerSigma (before.map Char.toLower) (after.map Char.toLower) = lowerSigma before after := by
  unfold lowerSigma
  rw [meetsCased_map_toLower, meetsCased_map_toLower]

theorem lowerAfter_map_toLower (before cs : List Char) :
    lowerAfter (before.map Char.toLower) (cs.map Char.toLower) = lowerAfter before cs := by
  induction cs generalizing before with
  | nil => rfl
  | cons c after induction =>
      have later := induction (c :: before)
      rw [List.map_cons] at later
      rw [List.map_cons, lowerAfter, lowerAfter, later, lowerSigma_map_toLower,
        lowerChar_toLower]
      simp only [toLower_eq_sigma_iff]

theorem lowercase_eq_of_sameLetters {text other : String}
    (same : SameLetters text.toList other.toList) : lowercase text = lowercase other := by
  have lowered : lowerAfter [] text.toList = lowerAfter [] other.toList := by
    rw [← lowerAfter_map_toLower [] text.toList, ← lowerAfter_map_toLower [] other.toList]
    exact congrArg (lowerAfter []) same
  exact congrArg String.ofList lowered

theorem SameLetters.forall_isAscii {cs ds : List Char} (same : SameLetters cs ds)
    (ascii : ∀ d ∈ ds, IsAscii d) : ∀ c ∈ cs, IsAscii c := by
  intro c member
  have lowered : c.toLower ∈ ds.map Char.toLower := by
    rw [← same]
    exact List.mem_map_of_mem member
  obtain ⟨d, inOther, equality⟩ := List.mem_map.mp lowered
  have lowered_ascii : IsAscii d.toLower := (isAscii_toLower_iff d).mpr (ascii d inOther)
  rw [equality] at lowered_ascii
  exact (isAscii_toLower_iff c).mp lowered_ascii

/-- What occurs in the lowered characters comes from a part with the same letters. -/
theorem exists_infix_sameLetters {part cs : List Char}
    (occurs : part.map Char.toLower <:+: cs.map Char.toLower) :
    ∃ original, original <:+: cs ∧ SameLetters original part := by
  obtain ⟨before, after, equality⟩ := occurs
  obtain ⟨upTo, rest, rfl, upTo_eq, -⟩ := List.map_eq_append_iff.mp equality.symm
  obtain ⟨front, original, rfl, -, original_eq⟩ := List.map_eq_append_iff.mp upTo_eq
  exact ⟨original, ⟨front, rest, rfl⟩, original_eq⟩

end Toolmark.Text
