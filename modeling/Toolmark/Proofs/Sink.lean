import Toolmark.Sink

/-!
# What writers write

A writer has a text. A sink with room for it takes the whole text. In any other sink the writer
fails, and the sink has taken a part at the beginning of the text that is not all of it. The text of
writers that follow each other is that of the first with that of the second behind it, since a
failure of the first is the end of both.
-/

namespace Toolmark

namespace Sink

variable {sink : Sink} {text later : String}

theorem accepts_take :
    (sink.take text).accepts later = sink.accepts (text ++ later) := by
  unfold accepts take
  cases sink.limit with
  | none => rfl
  | some limit => simp only [String.utf8ByteSize_append, Nat.add_assoc]

theorem take_take : (sink.take text).take later = sink.take (text ++ later) := by
  simp only [take, String.append_assoc]

theorem take_empty : sink.take "" = sink := by
  simp only [take, String.append_empty]

theorem empty_take (limit : Option Nat) (text : String) :
    (empty limit).take text = ⟨limit, text⟩ := by
  simp only [take, empty, String.empty_append]

theorem accepts_of_unlimited (unlimited : sink.limit = none) (text : String) :
    sink.accepts text = true := by
  simp only [accepts, unlimited]

theorem accepts_empty_iff {limit : Nat} :
    (empty (some limit)).accepts text = true ↔ text.utf8ByteSize ≤ limit := by
  simp [accepts, empty]

theorem accepts_of_append (fits : sink.accepts (text ++ later) = true) :
    sink.accepts text = true := by
  unfold accepts at fits ⊢
  cases limited : sink.limit with
  | none => rfl
  | some limit =>
      simp only [limited, String.utf8ByteSize_append, decide_eq_true_eq] at fits ⊢
      omega

theorem ne_empty_of_refused (sound : sink.accepts "" = true) (refused : sink.accepts text = false) :
    text ≠ "" := by
  rintro rfl
  exact Bool.noConfusion (sound.symm.trans refused)

/-- What becomes of a text that is written to a sink. -/
inductive Takes (sink : Sink) (text : String) : EStateM.Result WriteError Sink Unit → Prop where
  /-- All of it is taken. -/
  | all (fits : sink.accepts text = true) : Takes sink text (.ok () (sink.take text))
  /-- It does not fit. Something is left behind the part that is taken. -/
  | part {front rest : String} (text_eq : text = front ++ rest) (left : rest ≠ "")
      (refused : sink.accepts text = false) : Takes sink text (.error .sinkFull (sink.take front))

variable {written : EStateM.Result WriteError Sink Unit}

theorem Takes.behind (takes : (sink.take text).Takes later written) :
    sink.Takes (text ++ later) written := by
  cases takes with
  | all fits =>
      rw [take_take]
      rw [accepts_take] at fits
      exact .all fits
  | part later_eq left refused =>
      rw [take_take]
      rw [accepts_take] at refused
      exact .part (by rw [later_eq, String.append_assoc]) left refused

end Sink

namespace Writer

/-- A writer has a text, whatever the sink is that it writes to. -/
def Writes (writer : Writer Unit) (text : String) : Prop :=
  ∀ sink : Sink, sink.accepts "" = true → sink.Takes text (writer.run sink)

/-- What a writer writes to a sink without a limit. -/
def text (writer : Writer Unit) : String :=
  match writer.run (Sink.empty none) with
  | .ok _ sink => sink.taken
  | .error _ sink => sink.taken

variable {writer next : Writer Unit} {text later : String} {sink : Sink}

/-! ## Texts of writers -/

theorem writes_pure : Writes (pure ()) "" := by
  intro sink sound
  have all := Sink.Takes.all sound
  rwa [Sink.take_empty] at all

theorem writes_put (piece : String) : Writes (put piece) piece := by
  intro sink sound
  simp only [put, EStateM.run_bind, EStateM.run_get]
  split
  next fits =>
    exact .all fits
  next refused =>
    have refused : sink.accepts piece = false := Bool.eq_false_iff.mpr refused
    have nothing := Sink.Takes.part String.empty_append.symm
      (Sink.ne_empty_of_refused sound refused) refused
    rwa [Sink.take_empty] at nothing

/-- The second of two writers begins where the first has ended, unless that failed. -/
theorem Writes.bind (first : Writes writer text) (second : Writes next later) :
    Writes (writer >>= fun _ => next) (text ++ later) := by
  intro sink sound
  rw [EStateM.run_bind]
  have taken := first sink sound
  generalize writer.run sink = written at taken ⊢
  cases taken with
  | all fits =>
      have roomy : (sink.take text).accepts "" = true := by
        rwa [Sink.accepts_take, String.append_empty]
      exact (second (sink.take text) roomy).behind
  | @part front rest text_eq left refused =>
      -- The second writer never begins, so its whole text is left as well.
      have whole_eq : text ++ later = front ++ (rest ++ later) := by
        rw [text_eq, String.append_assoc]
      have whole_left : rest ++ later ≠ "" :=
        fun empty => left (String.append_eq_empty_iff.mp empty).1
      have whole_refused : sink.accepts (text ++ later) = false :=
        Bool.eq_false_iff.mpr fun fits =>
          Bool.noConfusion ((Sink.accepts_of_append fits).symm.trans refused)
      exact .part whole_eq whole_left whole_refused

/-- A loop stops at the first writer that fails. -/
theorem writes_forM {α : Type} {items : List α} {write : α → Writer Unit} {text : α → String}
    (writes : ∀ item ∈ items, Writes (write item) (text item)) :
    Writes (items.forM write) (String.join (items.map text)) := by
  induction items with
  | nil => exact writes_pure
  | cons item items induction =>
      obtain ⟨first, rest⟩ := List.forall_mem_cons.mp writes
      rw [List.map_cons, String.join_cons]
      exact first.bind (induction rest)

theorem writes_putAll (pieces : List String) : Writes (putAll pieces) (String.join pieces) := by
  have all := writes_forM fun piece (_ : piece ∈ pieces) => writes_put piece
  rwa [List.map_id'] at all

/-! ## Sinks with and without a limit -/

theorem Writes.run_of_unlimited (writes : Writes writer text) (unlimited : sink.limit = none) :
    writer.run sink = .ok () (sink.take text) := by
  have taken := writes sink (sink.accepts_of_unlimited unlimited "")
  generalize writer.run sink = written at taken ⊢
  cases taken with
  | all => rfl
  | part _ _ refused =>
      exact Bool.noConfusion ((sink.accepts_of_unlimited unlimited text).symm.trans refused)

theorem Writes.text_eq (writes : Writes writer text) : writer.text = text := by
  rw [Writer.text, writes.run_of_unlimited rfl]
  exact String.empty_append

/-- An empty sink takes a text that fits its limit, and otherwise a part at its beginning that is
not all of it. -/
theorem Writes.run_empty (writes : Writes writer text) (limit : Nat) :
    let written := writer.run (Sink.empty (some limit))
    (text.utf8ByteSize ≤ limit → written = .ok () ⟨some limit, text⟩) ∧
      (limit < text.utf8ByteSize →
        ∃ front rest, text = front ++ rest ∧ rest ≠ "" ∧
          written = .error .sinkFull ⟨some limit, front⟩) := by
  intro written
  have taken := writes (Sink.empty (some limit)) (Sink.accepts_empty_iff.mpr (Nat.zero_le limit))
  have taken : (Sink.empty (some limit)).Takes text written := taken
  generalize written = written at taken
  cases taken with
  | all fits =>
      refine ⟨fun _ => ?_, fun exceeds => absurd (Sink.accepts_empty_iff.mp fits) ?_⟩
      · rw [Sink.empty_take]
      · exact Nat.not_le.mpr exceeds
  | @part front rest text_eq left refused =>
      refine ⟨fun fits => ?_, fun _ => ⟨front, rest, text_eq, left, ?_⟩⟩
      · exact Bool.noConfusion ((Sink.accepts_empty_iff.mpr fits).symm.trans refused)
      · rw [Sink.empty_take]

end Writer

end Toolmark
