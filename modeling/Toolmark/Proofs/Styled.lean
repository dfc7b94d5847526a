import Mathlib.Data.List.Basic
import Toolmark.Styled

/-!
# Styled text without its styles

An escape sequence begins with an escape character, has parameters, and ends with a letter. Styled
text without escape characters of its own is the bare text once its escape sequences are removed, and
every style in it is closed by a reset before the line ends.
-/

namespace Toolmark

namespace Escape

/-! ## Escape sequences -/

/-- A digit or a semicolon. -/
def isParameter (c : Char) : Bool := c.isDigit || c == ';'

/-- The escape sequence with given parameters. -/
def sequence (parameters : List Char) : List Char := '\x1b' :: '[' :: (parameters ++ ['m'])

/-- What stands behind an escape sequence at the beginning of a text. -/
def behind? : List Char → Option (List Char)
  | '\x1b' :: '[' :: rest =>
      match rest.dropWhile isParameter with
      | 'm' :: behind => some behind
      | _ => none
  | _ => none

theorem length_lt_of_behind? {text behind : List Char} (found : behind? text = some behind) :
    behind.length < text.length := by
  unfold behind? at found
  split at found
  · split at found
    case _ rest _ behind' dropped =>
      obtain rfl := Option.some.inj found
      have shorter := (List.dropWhile_suffix isParameter (l := rest)).length_le
      rw [dropped, List.length_cons] at shorter
      simp only [List.length_cons]
      omega
    · nomatch found
  · nomatch found

/-- A text without its escape sequences. -/
def remove (text : List Char) : List Char :=
  match text with
  | [] => []
  | c :: rest =>
      match found : behind? (c :: rest) with
      | some behind =>
          have := length_lt_of_behind? found
          remove behind
      | none => c :: remove rest
termination_by text.length
decreasing_by
  · exact this
  · exact Nat.lt_succ_self rest.length

variable {parameters text : List Char}

theorem behind?_sequence_append (areParameters : ∀ c ∈ parameters, isParameter c = true)
    (rest : List Char) : behind? (sequence parameters ++ rest) = some rest := by
  have dropped : (parameters ++ 'm' :: rest).dropWhile isParameter = 'm' :: rest := by
    rw [List.dropWhile_append_of_pos areParameters]
    rfl
  simp [sequence, behind?, dropped]

theorem behind?_cons_of_ne {c : Char} (other : c ≠ '\x1b') (rest : List Char) :
    behind? (c :: rest) = none := by
  unfold behind?
  split
  next equality => exact absurd (List.cons.inj equality).1 other
  next => rfl

theorem remove_cons_of_ne {c : Char} (other : c ≠ '\x1b') (rest : List Char) :
    remove (c :: rest) = c :: remove rest := by
  rw [remove]
  split
  next behind found => nomatch found.symm.trans (behind?_cons_of_ne other rest)
  next => rfl

/-- A text is bare once its escape sequences are removed, whatever follows it. -/
def RemovesTo (text bare : List Char) : Prop :=
  ∀ rest, remove (text ++ rest) = bare ++ remove rest

theorem RemovesTo.remove_eq {bare : List Char} (removes : RemovesTo text bare) :
    remove text = bare := by
  have alone := removes []
  rwa [List.append_nil, remove, List.append_nil] at alone

theorem RemovesTo.append {bare other otherBare : List Char} (removes : RemovesTo text bare)
    (otherRemoves : RemovesTo other otherBare) :
    RemovesTo (text ++ other) (bare ++ otherBare) := by
  intro rest
  rw [List.append_assoc, removes, otherRemoves, List.append_assoc]

theorem removesTo_flatMap {α : Type} {items : List α} {render bare : α → List Char}
    (removes : ∀ item ∈ items, RemovesTo (render item) (bare item)) :
    RemovesTo (items.flatMap render) (items.flatMap bare) := by
  induction items with
  | nil => exact fun _ => rfl
  | cons item items induction =>
      rw [List.forall_mem_cons] at removes
      exact removes.1.append (induction removes.2)

theorem removesTo_sequence (areParameters : ∀ c ∈ parameters, isParameter c = true) :
    RemovesTo (sequence parameters) [] := by
  intro rest
  have found := behind?_sequence_append areParameters rest
  rw [sequence, List.cons_append] at found ⊢
  rw [remove]
  split
  next behind found' => exact congrArg remove (Option.some.inj (found'.symm.trans found))
  next none => nomatch found.symm.trans none

theorem removesTo_of_not_mem (absent : '\x1b' ∉ text) : RemovesTo text text := by
  intro rest
  induction text with
  | nil => rfl
  | cons c text induction =>
      obtain ⟨other, absentRest⟩ := not_or.mp (mt List.mem_cons.mpr absent)
      rw [List.cons_append, remove_cons_of_ne (Ne.symm other), induction absentRest,
        List.cons_append]

/-! ## Resets -/

/-- A text has a reset before its first line ends. -/
def HasReset (text : List Char) : Prop :=
  ∃ gap rest, text = gap ++ (Emphasis.reset ++ rest) ∧ '\n' ∉ gap

/-- Every escape sequence of a text that is no reset has a reset behind it before the line ends. -/
def Closes (text : List Char) : Prop :=
  ∀ before parameters behind, (∀ c ∈ parameters, isParameter c = true) → parameters ≠ ['0'] →
    text = before ++ (sequence parameters ++ behind) → HasReset behind

/-- Every escape character of a text begins a reset or has one behind it before the line ends. Of two
such texts one can follow the other. -/
def Settled (text : List Char) : Prop :=
  ∀ before tail, text = before ++ '\x1b' :: tail →
    (∃ rest, tail = ['[', '0', 'm'] ++ rest) ∨ HasReset tail

theorem HasReset.append (hasReset : HasReset text) (rest : List Char) :
    HasReset (text ++ rest) := by
  obtain ⟨gap, behind, rfl, oneLine⟩ := hasReset
  exact ⟨gap, behind ++ rest, by simp, oneLine⟩

theorem settled_of_not_mem (absent : '\x1b' ∉ text) : Settled text := by
  rintro before tail rfl
  exact absurd (List.mem_append_right before List.mem_cons_self) absent

theorem Settled.append {rest : List Char} (left : Settled text) (right : Settled rest) :
    Settled (text ++ rest) := by
  intro before tail equality
  obtain ⟨gap, rfl, behind_eq⟩ | ⟨gap, rfl, rest_eq⟩ := List.append_eq_append_iff.mp equality
  · exact right gap tail behind_eq
  · cases gap with
    | nil => exact right [] tail rest_eq.symm
    | cons c gap =>
        obtain ⟨rfl, rfl⟩ := List.cons_eq_cons.mp rest_eq
        obtain ⟨behind, rfl⟩ | hasReset := left before gap rfl
        · exact .inl ⟨behind ++ rest, List.append_assoc _ _ _⟩
        · exact .inr (hasReset.append rest)

theorem settled_flatMap {α : Type} {items : List α} {render : α → List Char}
    (settled : ∀ item ∈ items, Settled (render item)) : Settled (items.flatMap render) := by
  induction items with
  | nil => exact settled_of_not_mem List.not_mem_nil
  | cons item items induction =>
      rw [List.forall_mem_cons] at settled
      exact settled.1.append (induction settled.2)

theorem settled_cons {tail : List Char} (settled : Settled tail)
    (begins : (∃ rest, tail = ['[', '0', 'm'] ++ rest) ∨ HasReset tail) :
    Settled ('\x1b' :: tail) := by
  intro before tail' equality
  cases before with
  | nil =>
      obtain rfl := (List.cons.inj equality).2
      exact begins
  | cons c before => exact settled before tail' (List.cons.inj equality).2

theorem settled_reset : Settled Emphasis.reset :=
  settled_cons (settled_of_not_mem (by decide)) (.inl ⟨[], rfl⟩)

/-- Behind its escape character a sequence has parameters and the characters around them only. -/
theorem not_mem_sequence {c : Char} (areParameters : ∀ c ∈ parameters, isParameter c = true)
    (other : isParameter c = false ∧ c ≠ '[' ∧ c ≠ 'm') : c ∉ '[' :: (parameters ++ ['m']) := by
  obtain ⟨notParameter, notBracket, notLetter⟩ := other
  have absent : c ∉ parameters := fun member =>
    Bool.noConfusion ((areParameters c member).symm.trans notParameter)
  simp [notBracket, notLetter, absent]

theorem settled_sequence_append (areParameters : ∀ c ∈ parameters, isParameter c = true)
    (absent : '\x1b' ∉ text) (oneLine : '\n' ∉ text) :
    Settled (sequence parameters ++ (text ++ Emphasis.reset)) := by
  have noEscape : '\x1b' ∉ '[' :: (parameters ++ ['m']) ++ text :=
    fun member => (List.mem_append.mp member).elim
      (not_mem_sequence areParameters (by decide)) absent
  have noNewline : '\n' ∉ '[' :: (parameters ++ ['m']) ++ text :=
    fun member => (List.mem_append.mp member).elim
      (not_mem_sequence areParameters (by decide)) oneLine
  have settled : Settled ('[' :: (parameters ++ ['m']) ++ text ++ Emphasis.reset) :=
    (settled_of_not_mem noEscape).append settled_reset
  have begins := settled_cons settled (.inr ⟨_, [], by rw [List.append_nil], noNewline⟩)
  simpa [sequence] using begins

theorem eq_reset_of_begins {behind rest : List Char}
    (areParameters : ∀ c ∈ parameters, isParameter c = true)
    (begins : parameters ++ 'm' :: behind = '0' :: 'm' :: rest) : parameters = ['0'] := by
  cases parameters with
  | nil => nomatch begins
  | cons first others =>
      obtain ⟨rfl, others_eq⟩ := List.cons_eq_cons.mp begins
      cases others with
      | nil => rfl
      | cons second others =>
          obtain ⟨rfl, -⟩ := List.cons_eq_cons.mp others_eq
          exact absurd (areParameters 'm' (by simp)) (by decide)

theorem Settled.closes (settled : Settled text) : Closes text := by
  rintro before parameters behind areParameters distinct rfl
  have tail_eq : before ++ (sequence parameters ++ behind) =
      before ++ '\x1b' :: ('[' :: (parameters ++ ['m']) ++ behind) := by
    simp [sequence]
  obtain ⟨rest, begins⟩ | ⟨gap, rest, follows, oneLine⟩ := settled before _ tail_eq
  · have begins : parameters ++ 'm' :: behind = '0' :: 'm' :: rest := by simpa using begins
    exact absurd (eq_reset_of_begins areParameters begins) distinct
  · obtain ⟨between, rfl, rfl⟩ | ⟨left, body_eq, reset_eq⟩ := List.append_eq_append_iff.mp follows
    · exact ⟨between, rest, rfl, fun member => oneLine (List.mem_append_right _ member)⟩
    · -- The reset cannot begin within the sequence, which has no second escape character.
      cases left with
      | nil => exact ⟨[], rest, reset_eq.symm, List.not_mem_nil⟩
      | cons c left =>
          obtain ⟨rfl, -⟩ := List.cons_eq_cons.mp reset_eq
          have within : '\x1b' ∈ '[' :: (parameters ++ ['m']) :=
            body_eq ▸ List.mem_append_right gap List.mem_cons_self
          exact absurd within (not_mem_sequence areParameters (by decide))

end Escape

/-! ## Styled lines -/

namespace Emphasis

/-- The parameters of the sequence that begins an emphasis. -/
def parameters : Emphasis → List Char
  | boldGreen => ['1', ';', '3', '2']
  | boldRed => ['1', ';', '3', '1']
  | green => ['3', '2']
  | red => ['3', '1']
  | faint => ['2']

theorem opening_eq (emphasis : Emphasis) :
    emphasis.opening = Escape.sequence emphasis.parameters := by
  cases emphasis <;> rfl

theorem isParameter_parameters (emphasis : Emphasis) :
    ∀ c ∈ emphasis.parameters, Escape.isParameter c = true := by
  cases emphasis <;> simp [parameters, Escape.isParameter]

theorem reopen_of_not_mem (emphasis : Emphasis) {text : List Char} (absent : '\x1b' ∉ text) :
    emphasis.reopen text = text := by
  induction text with
  | nil => rfl
  | cons c text induction =>
      obtain ⟨other, absentRest⟩ := not_or.mp (mt List.mem_cons.mpr absent)
      rw [reopen, induction absentRest]
      rintro rest rfl
      exact absurd rfl other

end Emphasis

/-- The characters of a part, with or without colour. -/
def Span.render (color : Bool) (span : Span) : List Char :=
  match color, span.emphasis with
  | true, some emphasis =>
      emphasis.opening ++ emphasis.reopen span.text.toList ++ Emphasis.reset
  | _, _ => span.text.toList

/-- A line of styled text. -/
abbrev StyledLine := List Span

/-- The characters of a line with its line feed. -/
def StyledLine.render (color : Bool) (line : StyledLine) : List Char :=
  line.flatMap (Span.render color) ++ ['\n']

/-- The text of lines. -/
def StyledLine.text (color : Bool) (lines : List StyledLine) : String :=
  String.ofList (lines.flatMap (StyledLine.render color))

namespace Span

variable {span : Span}

@[simp]
theorem render_plain (color : Bool) (text : String) : (plain text).render color = text.toList := by
  cases color <;> rfl

theorem join_pieces (color : Bool) (span : Span) :
    String.join (span.pieces color) = String.ofList (span.render color) := by
  obtain ⟨emphasis, text⟩ := span
  apply String.toList_injective
  cases color <;> cases emphasis <;> simp [pieces, render, String.join_cons]

/-- The pieces of all parts are the characters of all parts. -/
theorem join_flatMap_pieces (color : Bool) (spans : List Span) :
    String.join (spans.flatMap (pieces color)) = String.ofList (spans.flatMap (render color)) := by
  induction spans with
  | nil => rfl
  | cons span spans induction =>
      rw [List.flatMap_cons, List.flatMap_cons, String.join_append, span.join_pieces, induction,
        String.ofList_append]

variable (unescaped : '\x1b' ∉ span.text.toList)

include unescaped

theorem removesTo_render : Escape.RemovesTo (span.render true) (span.render false) := by
  obtain ⟨emphasis, text⟩ := span
  have kept : Escape.RemovesTo text.toList text.toList := Escape.removesTo_of_not_mem unescaped
  cases emphasis with
  | none => exact kept
  | some emphasis =>
      have opened := Escape.removesTo_sequence emphasis.isParameter_parameters
      have closed : Escape.RemovesTo Emphasis.reset [] :=
        Escape.removesTo_sequence
          (List.forall_mem_singleton.mpr (by decide : Escape.isParameter '0' = true))
      have whole := (opened.append kept).append closed
      simpa [render, emphasis.opening_eq, emphasis.reopen_of_not_mem unescaped] using whole

theorem settled_render (oneLine : span.emphasis ≠ none → '\n' ∉ span.text.toList) :
    Escape.Settled (span.render true) := by
  obtain ⟨emphasis, text⟩ := span
  cases emphasis with
  | none => exact Escape.settled_of_not_mem unescaped
  | some emphasis =>
      have settled := Escape.settled_sequence_append emphasis.isParameter_parameters unescaped
        (oneLine nofun)
      simpa [render, emphasis.opening_eq, emphasis.reopen_of_not_mem unescaped] using settled

end Span

namespace StyledLine

variable {line : StyledLine}

theorem text_append (color : Bool) (left right : List StyledLine) :
    text color (left ++ right) = text color left ++ text color right := by
  rw [text, List.flatMap_append, String.ofList_append, text, text]

theorem text_flatMap {α : Type} (color : Bool) (items : List α) (lines : α → List StyledLine) :
    text color (items.flatMap lines) = String.join (items.map fun item => text color (lines item)) := by
  induction items with
  | nil => rfl
  | cons item items induction =>
      rw [List.flatMap_cons, text_append, induction, List.map_cons, String.join_cons]

theorem removesTo_render (unescaped : ∀ span ∈ line, '\x1b' ∉ span.text.toList) :
    Escape.RemovesTo (line.render true) (line.render false) :=
  (Escape.removesTo_flatMap fun span member => span.removesTo_render (unescaped span member)).append
    (Escape.removesTo_of_not_mem (by decide))

theorem settled_render (unescaped : ∀ span ∈ line, '\x1b' ∉ span.text.toList)
    (oneLine : ∀ span ∈ line, span.emphasis ≠ none → '\n' ∉ span.text.toList) :
    Escape.Settled (line.render true) := by
  have settled : ∀ span ∈ line, Escape.Settled (span.render true) := fun span member =>
    span.settled_render (unescaped span member) (oneLine span member)
  exact (Escape.settled_flatMap settled).append (Escape.settled_of_not_mem (by decide))

end StyledLine

end Toolmark
