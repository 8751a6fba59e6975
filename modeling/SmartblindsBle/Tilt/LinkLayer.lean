import SmartblindsBle.Tilt.Types

/-! # The Bluetooth link layer

Frames are cut into chunks of at most 18 payload bytes. Chunks carry sequence
numbers that cycle through 1 to 63 and are acknowledged one by one; the
assembler of the other side joins them again.
-/

namespace SmartblindsBle

open Foundation

def bluetoothCommandFlag : UInt8 := 0x80
def endOfMessageFlag : UInt8 := 0x40
def maxBlePayload : Nat := 18
def maxSequence : Nat := 63

/-! ## Sequence numbers -/

/-- The cyclic successor on 1 to 63. -/
def sequenceAfter (sequence : Nat) : Nat :=
  if sequence = maxSequence then 1 else sequence + 1

def nextSequence (sequence : Nat) : Raises Nat :=
  if 1 ≤ sequence ∧ sequence ≤ maxSequence then .ok (sequenceAfter sequence)
  else .error (.tiltProtocolError "BLE sequence must be between 1 and 63.")

theorem nextSequence_eq {sequence : Nat} (positive : 1 ≤ sequence)
    (bound : sequence ≤ maxSequence) : nextSequence sequence = .ok (sequenceAfter sequence) := by
  rw [nextSequence, if_pos ⟨positive, bound⟩]

theorem nextSequence_eq_ok {sequence next : Nat} (succeeds : nextSequence sequence = .ok next) :
    1 ≤ sequence ∧ sequence ≤ maxSequence ∧ next = sequenceAfter sequence := by
  unfold nextSequence at succeeds
  split at succeeds
  · next inRange =>
      cases succeeds
      exact ⟨inRange.1, inRange.2, rfl⟩
  · cases succeeds

theorem sequenceAfter_pos (sequence : Nat) : 1 ≤ sequenceAfter sequence := by
  unfold sequenceAfter
  split <;> omega

theorem sequenceAfter_le {sequence : Nat} (bound : sequence ≤ maxSequence) :
    sequenceAfter sequence ≤ maxSequence := by
  unfold sequenceAfter maxSequence at *
  split <;> omega

theorem sequenceAfter_ne (sequence : Nat) : sequenceAfter sequence ≠ sequence := by
  unfold sequenceAfter maxSequence
  split <;> omega

/-! ## Chunks -/

structure BleChunk where
  sequence : Nat
  endOfMessage : Bool
  forBluetoothLayer : Bool
  payload : Bytes
  deriving DecidableEq, Repr

def parseBleChunk (data : Bytes) : Raises BleChunk :=
  match data with
  | 0 :: flags :: payload =>
      if maxBlePayload + 2 < data.length then
        .error (.tiltProtocolError "BLE chunk exceeds the protocol payload limit.")
      else
        let sequence := (flags &&& 0x3F).toNat
        let forBluetoothLayer := flags &&& bluetoothCommandFlag != 0
        if sequence = 0 ∧ forBluetoothLayer = false then
          .error (.tiltProtocolError "BLE chunk sequence zero is invalid.")
        else
          .ok {
            sequence := sequence
            endOfMessage := flags &&& endOfMessageFlag != 0
            forBluetoothLayer := forBluetoothLayer
            payload := payload }
  | _ => .error (.tiltProtocolError "BLE chunk has an invalid header.")

/-- The second header byte of a data chunk. -/
def chunkFlags (sequence : Nat) (endOfMessage : Bool) : UInt8 :=
  UInt8.ofNat (sequence ||| if endOfMessage then endOfMessageFlag.toNat else 0)

/-- The sequence number in the header of a data chunk. -/
def chunkSequence (chunk : Bytes) : Nat := (chunk.getD 1 0 &&& 0x3F).toNat

/-- The bytes of a data chunk. -/
def dataChunk (sequence : Nat) (endOfMessage : Bool) (payload : Bytes) : Bytes :=
  [0, chunkFlags sequence endOfMessage] ++ payload

/-- Python's `range(0, stop, step)`. -/
def rangeByStep (stop step : Nat) : List Nat :=
  (List.range ((stop + step - 1) / step)).map (· * step)

/-- The loop of `chunk_for_ble` over the remaining offsets. -/
def chunkLoop (frame : Bytes) : List Nat → Nat → Raises (List Bytes)
  | [], _ => .ok []
  | offset :: offsets, sequence =>
      let payload := (frame.drop offset).take maxBlePayload
      let endOfMessage := decide (frame.length ≤ offset + maxBlePayload)
      match nextSequence sequence with
      | .error error => .error error
      | .ok next =>
          (chunkLoop frame offsets next).map
            (dataChunk sequence endOfMessage payload :: ·)

def chunkForBle (frame : Bytes) (startSequence : Nat) : Raises (List Bytes) :=
  if frame = [] then .error (.tiltProtocolError "Cannot chunk an empty Tilt message.")
  else if ¬(1 ≤ startSequence ∧ startSequence ≤ maxSequence) then
    .error (.tiltProtocolError "BLE sequence must be between 1 and 63.")
  else chunkLoop frame (rangeByStep frame.length maxBlePayload) startSequence

private theorem chunkFlags_fields : ∀ sequence < 64, ∀ endOfMessage : Bool,
    (chunkFlags sequence endOfMessage &&& 0x3F).toNat = sequence ∧
      (chunkFlags sequence endOfMessage &&& bluetoothCommandFlag) = 0 ∧
      (chunkFlags sequence endOfMessage &&& endOfMessageFlag != 0) = endOfMessage := by
  decide

theorem chunkFlags_sequence {sequence : Nat} (bound : sequence ≤ maxSequence)
    (endOfMessage : Bool) : (chunkFlags sequence endOfMessage &&& 0x3F).toNat = sequence :=
  (chunkFlags_fields sequence (Nat.lt_succ_of_le bound) endOfMessage).1

theorem parseBleChunk_dataChunk {sequence : Nat} (positive : 1 ≤ sequence)
    (bound : sequence ≤ maxSequence) (endOfMessage : Bool) {payload : Bytes}
    (fits : payload.length ≤ maxBlePayload) :
    parseBleChunk (dataChunk sequence endOfMessage payload) =
      .ok ⟨sequence, endOfMessage, false, payload⟩ := by
  have fields := chunkFlags_fields sequence (Nat.lt_succ_of_le bound) endOfMessage
  have short : ¬maxBlePayload + 2 < payload.length + 1 + 1 := by omega
  have nonzero : sequence ≠ 0 := by omega
  simp [dataChunk, parseBleChunk, fields, short, nonzero]

theorem parseBleChunk_eq_ok {data : Bytes} {chunk : BleChunk}
    (parsed : parseBleChunk data = .ok chunk) :
    chunk.payload = data.drop 2 ∧ chunk.payload.length ≤ maxBlePayload ∧
      chunk.sequence ≤ maxSequence ∧ (chunk.forBluetoothLayer = false → 1 ≤ chunk.sequence) := by
  unfold parseBleChunk at parsed
  split at parsed
  · next flags payload =>
      split at parsed
      · cases parsed
      · next short =>
          simp only at parsed
          split at parsed
          · cases parsed
          · next notZero =>
              cases parsed
              have bound : flags.toNat &&& 63 ≤ 63 := Nat.and_le_right
              refine ⟨rfl, ?_, ?_, ?_⟩
              · simp only [List.length_cons] at short ⊢
                omega
              · simpa [maxSequence] using bound
              · intro isData
                exact Nat.one_le_iff_ne_zero.mpr fun zero => notZero ⟨zero, isData⟩
  · cases parsed

theorem rangeByStep_succ {stop step : Nat} (positive : 0 < step) (more : step < stop) :
    rangeByStep stop step = 0 :: (rangeByStep (stop - step) step).map (· + step) := by
  have count : (stop + step - 1) / step = (stop - step + step - 1) / step + 1 := by
    have shift : stop + step - 1 = (stop - step + step - 1) + step := by omega
    rw [shift, Nat.add_div_right _ positive]
  rw [rangeByStep, rangeByStep, count, List.range_succ_eq_map]
  simp [Function.comp_def, Nat.succ_mul]

theorem rangeByStep_single {stop step : Nat} (positive : 0 < stop) (last : stop ≤ step) :
    rangeByStep stop step = [0] := by
  have count : (stop + step - 1) / step = 1 := by
    apply Nat.div_eq_of_lt_le <;> omega
  rw [rangeByStep, count]
  simp

theorem chunkLoop_drop (frame : Bytes) (size : Nat) (inside : size ≤ frame.length)
    (offsets : List Nat) (sequence : Nat) :
    chunkLoop frame (offsets.map (· + size)) sequence =
      chunkLoop (frame.drop size) offsets sequence := by
  induction offsets generalizing sequence with
  | nil => rfl
  | cons offset offsets induction =>
      have sameEnd : decide (frame.length ≤ offset + size + maxBlePayload) =
          decide ((frame.drop size).length ≤ offset + maxBlePayload) := by
        rw [List.length_drop]
        exact decide_eq_decide.mpr (by omega)
      rw [List.map_cons, chunkLoop, chunkLoop, sameEnd, List.drop_drop, Nat.add_comm size offset]
      cases nextSequence sequence with
      | error error => rfl
      | ok next => simp only [induction]

theorem chunkForBle_single {frame : Bytes} {sequence : Nat} (nonempty : frame ≠ [])
    (fits : frame.length ≤ maxBlePayload) (positive : 1 ≤ sequence)
    (bound : sequence ≤ maxSequence) :
    chunkForBle frame sequence = .ok [dataChunk sequence true frame] := by
  have lengthPos : 0 < frame.length := List.length_pos_iff.mpr nonempty
  rw [chunkForBle, if_neg nonempty, if_neg (by simp [positive, bound]),
    rangeByStep_single lengthPos fits, chunkLoop, nextSequence_eq positive bound]
  simp [chunkLoop, Except.map, List.take_of_length_le fits, fits]

/-- A longer frame loses its first 18 bytes to one chunk; the rest is cut as a
frame of its own, from the next sequence number on. -/
theorem chunkForBle_cons {frame : Bytes} {sequence : Nat}
    (more : maxBlePayload < frame.length) (positive : 1 ≤ sequence)
    (bound : sequence ≤ maxSequence) :
    chunkForBle frame sequence =
      (chunkForBle (frame.drop maxBlePayload) (sequenceAfter sequence)).map
        (dataChunk sequence false (frame.take maxBlePayload) :: ·) := by
  have nonempty : frame ≠ [] := by
    rintro rfl
    simp at more
  have restNonempty : frame.drop maxBlePayload ≠ [] := by
    intro isNil
    have := List.drop_eq_nil_iff.mp isNil
    omega
  have notLast : ¬frame.length ≤ 0 + maxBlePayload := by omega
  have rest : chunkLoop frame
        ((rangeByStep (frame.length - maxBlePayload) maxBlePayload).map (· + maxBlePayload))
        (sequenceAfter sequence) =
      chunkForBle (frame.drop maxBlePayload) (sequenceAfter sequence) := by
    rw [chunkLoop_drop frame maxBlePayload (by omega), chunkForBle, if_neg restNonempty,
      if_neg (by simp [sequenceAfter_pos, sequenceAfter_le bound]), List.length_drop]
  rw [chunkForBle, if_neg nonempty, if_neg (by simp [positive, bound]),
    rangeByStep_succ (by decide) more, chunkLoop, nextSequence_eq positive bound]
  simp only [rest, List.drop_zero, decide_eq_false notLast]

theorem chunkForBle_cases {frame : Bytes} {sequence : Nat} {chunks : List Bytes}
    (cut : chunkForBle frame sequence = .ok chunks) (positive : 1 ≤ sequence)
    (bound : sequence ≤ maxSequence) :
    (frame.length ≤ maxBlePayload ∧ chunks = [dataChunk sequence true frame]) ∨
      ∃ later, chunkForBle (frame.drop maxBlePayload) (sequenceAfter sequence) = .ok later ∧
        chunks = dataChunk sequence false (frame.take maxBlePayload) :: later := by
  by_cases fits : frame.length ≤ maxBlePayload
  · have nonempty : frame ≠ [] := by
      intro isEmpty
      rw [chunkForBle, if_pos isEmpty] at cut
      cases cut
    rw [chunkForBle_single nonempty fits positive bound] at cut
    cases cut
    exact .inl ⟨fits, rfl⟩
  · rw [chunkForBle_cons (Nat.not_le.mp fits) positive bound] at cut
    rcases later : chunkForBle (frame.drop maxBlePayload) (sequenceAfter sequence) with
      error | chunks
    · rw [later] at cut
      cases cut
    · rw [later] at cut
      cases cut
      exact .inr ⟨chunks, rfl, rfl⟩

/-! ## Acknowledgements -/

def makeBleAck (sequence : Nat) : Raises Bytes :=
  if 1 ≤ sequence ∧ sequence ≤ maxSequence then
    .ok [0, bluetoothCommandFlag ||| endOfMessageFlag, 0x01, UInt8.ofNat sequence]
  else .error (.tiltProtocolError "Cannot ACK an invalid BLE sequence.")

def parseBleAck (data : Bytes) : Raises Nat :=
  match parseBleChunk data with
  | .error error => .error error
  | .ok chunk =>
      if chunk.forBluetoothLayer = false ∨ chunk.endOfMessage = false then
        .error (.tiltProtocolError "Expected a Bluetooth-layer ACK.")
      else
        match chunk.payload with
        | [0x01, sequence] =>
            if 1 ≤ sequence.toNat ∧ sequence.toNat ≤ maxSequence then .ok sequence.toNat
            else .error (.tiltProtocolError "Bluetooth-layer ACK sequence is invalid.")
        | _ => .error (.tiltProtocolError "Bluetooth-layer ACK payload is invalid.")

/-- The acknowledgement of a sequence number from 1 to 63. -/
def bleAck (sequence : Nat) : Bytes :=
  [0, bluetoothCommandFlag ||| endOfMessageFlag, 0x01, UInt8.ofNat sequence]

theorem makeBleAck_eq {sequence : Nat} (positive : 1 ≤ sequence)
    (bound : sequence ≤ maxSequence) : makeBleAck sequence = .ok (bleAck sequence) := by
  rw [makeBleAck, if_pos ⟨positive, bound⟩, bleAck]

theorem parseBleChunk_bleAck (sequence : Nat) :
    parseBleChunk (bleAck sequence) = .ok ⟨0, true, true, [0x01, UInt8.ofNat sequence]⟩ := rfl

theorem parseBleAck_bleAck {sequence : Nat} (positive : 1 ≤ sequence)
    (bound : sequence ≤ maxSequence) : parseBleAck (bleAck sequence) = .ok sequence := by
  have small : (UInt8.ofNat sequence).toNat = sequence := by
    have : sequence < 256 := by
      unfold maxSequence at bound
      omega
    simp [Nat.mod_eq_of_lt this]
  rw [parseBleAck, parseBleChunk_bleAck]
  simp [small, positive, bound]

/-! ## The assembler -/

/-- Reassembles one direction. The expected sequence is always a sequence
number, as the constructor checks and `next_sequence` keeps. -/
@[ext] structure BleMessageAssembler where
  expectedSequence : Nat
  buffer : Bytes
  expectedSequence_pos : 1 ≤ expectedSequence
  expectedSequence_le : expectedSequence ≤ maxSequence
  deriving DecidableEq, Repr

namespace BleMessageAssembler

def create (expectedSequence : Nat) : Raises BleMessageAssembler :=
  if inRange : 1 ≤ expectedSequence ∧ expectedSequence ≤ maxSequence then
    .ok ⟨expectedSequence, [], inRange.1, inRange.2⟩
  else .error (.tiltProtocolError "Expected BLE sequence must be between 1 and 63.")

/-- `BleMessageAssembler()` with its default argument. -/
def initial : BleMessageAssembler := ⟨1, [], by decide, by decide⟩

/-- `self._buffer.clear()`. -/
def clear (assembler : BleMessageAssembler) : BleMessageAssembler :=
  { assembler with buffer := [] }

/-- The state after an accepted chunk, holding `buffer`. -/
def advance (assembler : BleMessageAssembler) (buffer : Bytes) : BleMessageAssembler where
  expectedSequence := sequenceAfter assembler.expectedSequence
  buffer := buffer
  expectedSequence_pos := sequenceAfter_pos _
  expectedSequence_le := sequenceAfter_le assembler.expectedSequence_le

/-- Add one chunk. The state changes also when the method raises, so the new
state is returned beside the outcome: the acknowledged sequence and, at the end
of a message, the message. -/
def add (assembler : BleMessageAssembler) (data : Bytes) :
    BleMessageAssembler × Raises (Nat × Option Bytes) :=
  match parseBleChunk data with
  | .error error => (assembler, .error error)
  | .ok chunk =>
      if chunk.forBluetoothLayer then
        (assembler, .error
          (.tiltProtocolError "Bluetooth command cannot be added to message assembler."))
      else if chunk.sequence ≠ assembler.expectedSequence then
        (assembler.clear, .error
          (.tiltProtocolError "Received a non-contiguous BLE sequence."))
      else
        -- `next_sequence` cannot raise: the sequence is the expected one
        let buffer := assembler.buffer ++ chunk.payload
        if chunk.endOfMessage = false then
          (assembler.advance buffer, .ok (chunk.sequence, none))
        else
          (assembler.advance [], .ok (chunk.sequence, some buffer))

theorem add_error {assembler : BleMessageAssembler} {data : Bytes} {error : PythonException}
    (invalid : parseBleChunk data = .error error) :
    assembler.add data = (assembler, .error error) := by
  rw [add, invalid]

theorem add_bluetooth {assembler : BleMessageAssembler} {data : Bytes} {chunk : BleChunk}
    (parsed : parseBleChunk data = .ok chunk) (bluetooth : chunk.forBluetoothLayer = true) :
    assembler.add data = (assembler, .error
      (.tiltProtocolError "Bluetooth command cannot be added to message assembler.")) := by
  rw [add, parsed]
  simp [bluetooth]

theorem add_noncontiguous {assembler : BleMessageAssembler} {data : Bytes} {chunk : BleChunk}
    (parsed : parseBleChunk data = .ok chunk) (isData : chunk.forBluetoothLayer = false)
    (gap : chunk.sequence ≠ assembler.expectedSequence) :
    assembler.add data = (assembler.clear, .error
      (.tiltProtocolError "Received a non-contiguous BLE sequence.")) := by
  rw [add, parsed]
  simp [isData, gap]

theorem add_accepted {assembler : BleMessageAssembler} {data : Bytes} {chunk : BleChunk}
    (parsed : parseBleChunk data = .ok chunk) (isData : chunk.forBluetoothLayer = false)
    (contiguous : chunk.sequence = assembler.expectedSequence) :
    assembler.add data =
      if chunk.endOfMessage = false then
        (assembler.advance (assembler.buffer ++ chunk.payload), .ok (chunk.sequence, none))
      else
        (assembler.advance [],
          .ok (chunk.sequence, some (assembler.buffer ++ chunk.payload))) := by
  rw [add, parsed]
  simp [isData, contiguous]

theorem add_dataChunk (assembler : BleMessageAssembler) (endOfMessage : Bool) {payload : Bytes}
    (fits : payload.length ≤ maxBlePayload) :
    assembler.add (dataChunk assembler.expectedSequence endOfMessage payload) =
      if endOfMessage = false then
        (assembler.advance (assembler.buffer ++ payload),
          .ok (assembler.expectedSequence, none))
      else
        (assembler.advance [],
          .ok (assembler.expectedSequence, some (assembler.buffer ++ payload))) :=
  add_accepted (parseBleChunk_dataChunk assembler.expectedSequence_pos
    assembler.expectedSequence_le endOfMessage fits) rfl rfl

/-- A chunk with another sequence number is refused, and what was collected of
the current message is dropped. -/
theorem add_dataChunk_noncontiguous (assembler : BleMessageAssembler) {sequence : Nat}
    (positive : 1 ≤ sequence) (bound : sequence ≤ maxSequence) (endOfMessage : Bool)
    {payload : Bytes} (fits : payload.length ≤ maxBlePayload)
    (gap : sequence ≠ assembler.expectedSequence) :
    assembler.add (dataChunk sequence endOfMessage payload) = (assembler.clear, .error
      (.tiltProtocolError "Received a non-contiguous BLE sequence.")) :=
  add_noncontiguous (parseBleChunk_dataChunk positive bound endOfMessage fits) rfl gap

end BleMessageAssembler

end SmartblindsBle
