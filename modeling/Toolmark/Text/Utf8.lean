/-!
# UTF-8

Decoding of arbitrary bytes. Each maximal part of a sequence that is cut short, and each byte that
begins no sequence, is read as one replacement character, so a byte below 128 always stands for
itself, whatever precedes it.
-/

namespace Toolmark.Text.Utf8

/-- The character read in place of invalid bytes. -/
def replacement : Char := '\uFFFD'

/-- A sequence whose lead byte has been read. -/
structure Pending where
  /-- Number of bytes still to come. -/
  missing : Nat
  /-- Least value of the next byte. -/
  low : Nat
  /-- Greatest value of the next byte. -/
  high : Nat
  /-- Bits of the code point read so far. -/
  value : Nat
deriving DecidableEq, Repr

/-- The sequence that a byte of at least 128 begins, if it begins one. -/
def lead? (byte : Nat) : Option Pending :=
  if 0xC2 ≤ byte && byte ≤ 0xDF then some ⟨1, 0x80, 0xBF, byte - 0xC0⟩
  else if byte == 0xE0 then some ⟨2, 0xA0, 0xBF, 0⟩
  else if byte == 0xED then some ⟨2, 0x80, 0x9F, 0xD⟩
  else if 0xE1 ≤ byte && byte ≤ 0xEF then some ⟨2, 0x80, 0xBF, byte - 0xE0⟩
  else if byte == 0xF0 then some ⟨3, 0x90, 0xBF, 0⟩
  else if 0xF1 ≤ byte && byte ≤ 0xF3 then some ⟨3, 0x80, 0xBF, byte - 0xF0⟩
  else if byte == 0xF4 then some ⟨3, 0x80, 0x8F, 4⟩
  else none

/-- A decoder between two bytes. -/
structure Decoder where
  /-- The sequence that has begun, if any. -/
  pending : Option Pending
  /-- The characters read, last first. -/
  read : List Char
deriving DecidableEq, Repr

namespace Decoder

/-- The decoder before the first byte. -/
def start : Decoder := ⟨none, []⟩

/-- The decoder after a byte that continues no sequence. -/
def begin (read : List Char) (byte : Nat) : Decoder :=
  if byte < 0x80 then ⟨none, Char.ofNat byte :: read⟩
  else match lead? byte with
    | some pending => ⟨some pending, read⟩
    | none => ⟨none, replacement :: read⟩

/-- The decoder after one more byte. -/
def step (decoder : Decoder) (byte : UInt8) : Decoder :=
  match decoder.pending with
  | none => begin decoder.read byte.toNat
  | some pending =>
      if pending.low ≤ byte.toNat && byte.toNat ≤ pending.high then
        let value := 64 * pending.value + (byte.toNat - 0x80)
        if pending.missing ≤ 1 then
          ⟨none, Char.ofNat value :: decoder.read⟩
        else
          ⟨some ⟨pending.missing - 1, 0x80, 0xBF, value⟩, decoder.read⟩
      else
        begin (replacement :: decoder.read) byte.toNat

/-- The characters read when no byte follows. -/
def finish (decoder : Decoder) : List Char :=
  match decoder.pending with
  | none => decoder.read.reverse
  | some _ => (replacement :: decoder.read).reverse

end Decoder

/-- The text of arbitrary bytes. -/
def decode (bytes : List UInt8) : String :=
  String.ofList (bytes.foldl Decoder.step Decoder.start).finish

/-- The bytes of a text. -/
def encode (text : String) : List UInt8 := text.toUTF8.toList

/-- The text whose bytes are given, if there is one. -/
def decode? (bytes : List UInt8) : Option String :=
  let text := decode bytes
  if encode text = bytes then some text else none

end Toolmark.Text.Utf8
