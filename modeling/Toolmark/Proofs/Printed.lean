import Mathlib
import Toolmark.Host
import Toolmark.Proofs.Detector
import Toolmark.Proofs.Matcher

/-!
# Fingerprints in printed bytes

A tool may print bytes that are no text. They are decoded before they are cut into lines, yet the
lines are those that cutting first would give, and a fingerprint below 128 is found whatever stands
around its bytes.
-/

namespace Toolmark

open Text

namespace Detector

open Utf8

/-- Whatever precedes and follows the bytes of a pattern in any case, it is found. -/
theorem isPositive_scan_decode {detector : Detector} {patterns : List String} {pattern : String}
    {before middle after : List UInt8} (matcher_eq : detector.matcher = .ofPatterns patterns)
    (positive : 0 < detector.cap) (member : pattern ∈ patterns) (nonempty : pattern ≠ "")
    (ascii : ∀ c ∈ pattern.toList, IsAscii c) (oneLine : '\n' ∉ pattern.toList)
    (sameLetters : middle.map lowerByte = (encode pattern).map lowerByte) :
    (detector.scan (decode (before ++ (middle ++ after)))).isPositive = true := by
  have asciiMiddle := lt_of_same_letters ascii sameLetters
  have sameText := map_toLower_of_same_letters ascii sameLetters
  have middle_ne : middle ≠ [] := by
    rintro rfl
    have empty : pattern.toList = [] := by simpa using sameText.symm
    exact nonempty (String.toList_eq_nil_iff.mp empty)
  have oneLineMiddle : '\n' ∉ middle.map asciiChar := by
    intro inMiddle
    have lowered : '\n' ∈ pattern.toList.map Char.toLower :=
      sameText ▸ List.mem_map.mpr ⟨'\n', inMiddle, rfl⟩
    obtain ⟨c, inPattern, newline⟩ := List.mem_map.mp lowered
    exact oneLine (eq_newline_of_toLower (ascii c inPattern) newline ▸ inPattern)
  have read : middle.map asciiChar <:+: (decode (before ++ (middle ++ after))).toList :=
    ⟨_, _, (decode_append_asciis before middle_ne asciiMiddle after).symm⟩
  obtain ⟨segment, inSegments, occurs⟩ := exists_segment_of_infix oneLineMiddle read
  rw [isPositive_scan_iff positive]
  refine ⟨String.ofList segment, List.mem_map_of_mem inSegments, ?_⟩
  rw [matcher_eq]
  refine Matcher.accepts_of_ascii member ascii ?_ (by simpa using occurs) sameText
  intro c inMiddle
  obtain ⟨byte, inBytes, rfl⟩ := List.mem_map.mp inMiddle
  exact isAscii_asciiChar (asciiMiddle byte inBytes)

end Detector

/-- A process that is started in time and ends with success by the deadline has its bytes, once they
are decoded, as its result. -/
theorem Tools.attempt_of_exit {work : Invocation → String → Work} {invocation : Invocation}
    {binary : String} {start deadline : Instant} {duration : Nat} {status : Host.Status}
    {bytes : List UInt8}
    (work_eq : work invocation binary = .ofExit invocation.program duration status bytes)
    (success : status.isSuccess = true) (early : start < deadline)
    (inTime : start + duration ≤ deadline) :
    ((processes work).attempt invocation binary start deadline).result =
      .ok (Utf8.decode bytes) := by
  have notLate : ¬ deadline ≤ start := Nat.not_le.mpr early
  have done : ¬ deadline < start + duration := Nat.not_lt.mpr inTime
  simp only [processes, work_eq, Work.ofExit, if_neg notLate, if_neg done, success, if_true]

namespace Host

/-- A tool that is started on a binary prints bytes and reports success by the deadline. -/
def Prints (host : Host) (invocation : Invocation) (binary : String) (start deadline : Instant)
    (bytes : List UInt8) : Prop :=
  let arguments := invocation.args ++ [binary]
  ∃ launch session status,
    host.launch invocation.program arguments = .ok launch ∧
      Shell.runProgram Shell.depthBound launch.name
          ((launch.arguments ++ arguments).map Shell.Octets.ofText) host.session =
        (session, some status) ∧
      status.isSuccess = true ∧
      Shell.Octets.toBytes (session.text 0) = bytes ∧
      start + max 1 (session.heldUntil 0) ≤ deadline

theorem attempt_of_prints {host : Host} {invocation : Invocation} {binary : String}
    {start deadline : Instant} {bytes : List UInt8}
    (prints : host.Prints invocation binary start deadline bytes) :
    (host.tools.attempt invocation binary start deadline).result = .ok (Utf8.decode bytes) := by
  obtain ⟨launch, session, status, launched, ran, success, rfl, inTime⟩ := prints
  have work_eq : host.work invocation binary =
      .ofExit invocation.program (max 1 (session.heldUntil 0)) status
        (Shell.Octets.toBytes (session.text 0)) := by
    simp only [work, launched, ran]
  have takesTime : 0 < max 1 (session.heldUntil 0) :=
    Nat.lt_of_lt_of_le Nat.one_pos (le_max_left _ _)
  have early : start < deadline :=
    Nat.lt_of_lt_of_le (Nat.lt_add_of_pos_right takesTime) inTime
  exact Tools.attempt_of_exit work_eq success early inTime

end Host

/-- What a tool prints is read as text, whatever its bytes are. Bytes that are no text neither
join, cut nor remove lines, and a fingerprint is found whatever is printed around it. This is so for
every process that ends with success in time, among them the tools of a host. -/
theorem garbage_hides_no_fingerprint (bytes : List UInt8) :
    lines (Utf8.decode bytes) = (segments 10 bytes).map Utf8.decode ∧
      (∀ (work : Invocation → String → Work) (invocation : Invocation) (binary : String)
          (start deadline : Instant) (duration : Nat) (status : Host.Status),
        work invocation binary = .ofExit invocation.program duration status bytes →
        status.isSuccess = true → start < deadline → start + duration ≤ deadline →
          ((Tools.processes work).attempt invocation binary start deadline).result =
            .ok (Utf8.decode bytes)) ∧
      (∀ (host : Host) (invocation : Invocation) (binary : String) (start deadline : Instant),
        host.Prints invocation binary start deadline bytes →
          (host.tools.attempt invocation binary start deadline).result =
            .ok (Utf8.decode bytes)) ∧
      ∀ (detector : Detector) (patterns : List String) (pattern : String)
        (before middle after : List UInt8),
        detector.matcher = .ofPatterns patterns → 1 ≤ detector.cap →
        pattern ∈ patterns → pattern ≠ "" → (∀ c ∈ pattern.toList, IsAscii c) →
        '\n' ∉ pattern.toList → bytes = before ++ (middle ++ after) →
        middle.map Utf8.lowerByte = (Utf8.encode pattern).map Utf8.lowerByte →
          (detector.evaluate (.ok (Utf8.decode bytes))).isPositive = true := by
  refine ⟨Utf8.lines_decode_segments bytes, fun _ _ _ _ _ _ _ => Tools.attempt_of_exit,
    fun _ _ _ _ _ => Host.attempt_of_prints, ?_⟩
  intro detector patterns pattern before middle after matcher_eq positive member nonempty ascii
    oneLine split sameLetters
  rw [split]
  exact Detector.isPositive_scan_decode matcher_eq positive member nonempty ascii oneLine
    sameLetters

/-- The word `rust` in mixed case between two sequences that are cut short. -/
def mixedBytes : List UInt8 := [0xE2, 0x82, 0x52, 0x75, 0x53, 0x54, 0xF0, 0x90]

/-- A host with one program, which prints a file, and one file. -/
def mixedHost : Host where
  tree := ⟨[(["cat"], .program "cat"), (["f"], .file mixedBytes false)]⟩
  directory := []
  environment := [("PATH", "/")]

theorem mixedHost_launch : mixedHost.launch "cat" ["f"] = .ok ⟨"cat", []⟩ := by
  cbv

theorem mixedHost_run :
    (fun run : Shell.Session × Option Host.Status =>
        (run.2, Shell.Octets.toBytes (run.1.text 0), run.1.heldUntil 0))
      (Shell.runProgram Shell.depthBound "cat" (["f"].map Shell.Octets.ofText)
        mixedHost.session) =
      (some (.exited 0), mixedBytes, 0) := by
  cbv

theorem mixedHost_prints : mixedHost.Prints ⟨"cat", []⟩ "f" 0 30000 mixedBytes := by
  have run_eq := mixedHost_run
  simp only [Prod.mk.injEq] at run_eq
  obtain ⟨status_eq, bytes_eq, held_eq⟩ := run_eq
  have inTime : ∀ held, held = 0 → 0 + max 1 held ≤ 30000 := by
    rintro _ rfl
    decide
  exact ⟨⟨"cat", []⟩, _, .exited 0, mixedHost_launch, Prod.ext rfl status_eq, rfl, bytes_eq,
    inTime _ held_eq⟩

/-- The word is found in what the host prints. -/
theorem garbage_hides_no_fingerprint_mixed :
    (mixedHost.tools.attempt ⟨"cat", []⟩ "f" 0 30000).result = .ok (Utf8.decode mixedBytes) ∧
      (Detector.strings.evaluate (.ok (Utf8.decode mixedBytes))).isPositive = true := by
  obtain ⟨_, _, read, found⟩ := garbage_hides_no_fingerprint mixedBytes
  refine ⟨read _ _ _ _ _ mixedHost_prints, ?_⟩
  have ascii : ∀ c ∈ "rust".toList, IsAscii c := by simp [IsAscii]
  have sameLetters : [0x52, 0x75, 0x53, 0x54].map Utf8.lowerByte =
      (Utf8.encode "rust").map Utf8.lowerByte := by
    cbv
  exact found Detector.strings _ "rust" [0xE2, 0x82] [0x52, 0x75, 0x53, 0x54] [0xF0, 0x90] rfl
    (by decide) (by decide) (by decide) ascii (by decide) rfl sameLetters

end Toolmark
