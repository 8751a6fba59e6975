import SmartblindsBle.Foundation.Bytes

/-! # PacketLogger records

A capture file is a list of records, each behind its length. The capture may end
in the middle of a record.
-/

namespace SmartblindsBle

open Foundation

namespace Capture

/-- `struct.unpack_from("<I", buf, pos)`, for an offset at which four bytes are left. -/
def unpackU32 (buf : Bytes) (pos : Nat) : Nat := ofLittleEndian ((buf.drop pos).take 4)

/-- The records from an offset on: type and payload. -/
def recordsFrom (buf : Bytes) (pos : Nat) : List (UInt8 × Bytes) :=
  if pos + 13 ≤ buf.length then
    let length := unpackU32 buf pos
    if length < 9 ∨ pos + 4 + length > buf.length then []
    else
      let ptype := buf.getD (pos + 12) 0
      let payload := (buf.take (pos + 4 + length)).drop (pos + 13)
      (ptype, payload) :: recordsFrom buf (pos + 4 + length)
  else []
termination_by buf.length - pos

def records (buf : Bytes) : List (UInt8 × Bytes) := recordsFrom buf 0

/-! ## Records as they are written -/

structure PacketRecord where
  /-- Seconds and microseconds. -/
  timestamp : Bytes
  ptype : UInt8
  payload : Bytes
  timestamp_length : timestamp.length = 8
  fits : 9 + payload.length < 2 ^ 32

namespace PacketRecord

/-- The record in the byte order of `records`. -/
def bytes (record : PacketRecord) : Bytes :=
  toLittleEndian 4 (9 + record.payload.length) ++
    (record.timestamp ++ record.ptype :: record.payload)

theorem bytes_length (record : PacketRecord) :
    record.bytes.length = 4 + (9 + record.payload.length) := by
  have timestamp := record.timestamp_length
  simp only [bytes, List.length_append, toLittleEndian_length, List.length_cons]
  omega

theorem unpackU32_bytes (record : PacketRecord) (before after : Bytes) :
    unpackU32 (before ++ (record.bytes ++ after)) before.length = 9 + record.payload.length := by
  have inWidth : 9 + record.payload.length < 256 ^ 4 := record.fits
  rw [unpackU32, List.drop_left, bytes, List.append_assoc,
    List.take_left' (toLittleEndian_length ..), ofLittleEndian_toLittleEndian,
    Nat.mod_eq_of_lt inWidth]

theorem ptype_bytes (record : PacketRecord) (before after : Bytes) :
    (before ++ (record.bytes ++ after)).getD (before.length + 12) 0 = record.ptype := by
  have header : (toLittleEndian 4 (9 + record.payload.length) ++ record.timestamp).length = 12 := by
    rw [List.length_append, toLittleEndian_length, record.timestamp_length]
  have split : before ++ (record.bytes ++ after) =
      (before ++ (toLittleEndian 4 (9 + record.payload.length) ++ record.timestamp)) ++
        record.ptype :: (record.payload ++ after) := by
    simp [bytes]
  have front : (before ++ (toLittleEndian 4 (9 + record.payload.length) ++
      record.timestamp)).length = before.length + 12 := by
    rw [List.length_append, header]
  rw [split, ← front]
  simp

theorem payload_bytes (record : PacketRecord) (before after : Bytes) :
    ((before ++ (record.bytes ++ after)).take
      (before.length + 4 + (9 + record.payload.length))).drop (before.length + 13) =
        record.payload := by
  have whole : (before ++ record.bytes).length =
      before.length + 4 + (9 + record.payload.length) := by
    rw [List.length_append, bytes_length]
    omega
  have split : before ++ record.bytes =
      (before ++ (toLittleEndian 4 (9 + record.payload.length) ++
        (record.timestamp ++ [record.ptype]))) ++ record.payload := by
    simp [bytes]
  have front : (before ++ (toLittleEndian 4 (9 + record.payload.length) ++
      (record.timestamp ++ [record.ptype]))).length = before.length + 13 := by
    have timestamp := record.timestamp_length
    simp only [List.length_append, toLittleEndian_length, List.length_cons, List.length_nil]
    omega
  rw [← List.append_assoc, List.take_left' whole, split, List.drop_left' front]

end PacketRecord

theorem recordsFrom_record (record : PacketRecord) (before after : Bytes) :
    recordsFrom (before ++ (record.bytes ++ after)) before.length =
      (record.ptype, record.payload) ::
        recordsFrom (before ++ (record.bytes ++ after)) (before ++ record.bytes).length := by
  have total : (before ++ (record.bytes ++ after)).length =
      before.length + (4 + (9 + record.payload.length)) + after.length := by
    simp only [List.length_append, PacketRecord.bytes_length]
    omega
  have next : (before ++ record.bytes).length =
      before.length + 4 + (9 + record.payload.length) := by
    rw [List.length_append, PacketRecord.bytes_length]
    omega
  have header : before.length + 13 ≤ (before ++ (record.bytes ++ after)).length := by omega
  have complete : ¬ (9 + record.payload.length < 9 ∨
      before.length + 4 + (9 + record.payload.length) >
        (before ++ (record.bytes ++ after)).length) := by omega
  rw [recordsFrom, if_pos header, record.unpackU32_bytes, if_neg complete, record.ptype_bytes,
    record.payload_bytes, next]

/-- The beginning of a record that is cut off, possibly nothing of it. -/
def CutOff (bytes : Bytes) : Prop :=
  ∃ record : PacketRecord, ∃ lost, lost ≠ [] ∧ record.bytes = bytes ++ lost

theorem recordsFrom_cutOff (before : Bytes) {bytes : Bytes} (cutOff : CutOff bytes) :
    recordsFrom (before ++ bytes) before.length = [] := by
  rcases cutOff with ⟨record, lost, nonempty, split⟩
  have lostBytes := List.length_pos_of_ne_nil nonempty
  have lengths := congrArg List.length split
  rw [PacketRecord.bytes_length, List.length_append] at lengths
  rw [recordsFrom]
  split
  · next header =>
      rw [List.length_append] at header
      -- The length is there, and it is the length of the whole record.
      have length : unpackU32 (before ++ bytes) before.length = 9 + record.payload.length := by
        have read := record.unpackU32_bytes before []
        have fourBytes : 4 ≤ bytes.length := by omega
        rw [split, unpackU32, List.drop_left, List.append_nil,
          List.take_append_of_le_length fourBytes] at read
        rw [unpackU32, List.drop_left, read]
      have incomplete : unpackU32 (before ++ bytes) before.length < 9 ∨
          before.length + 4 + unpackU32 (before ++ bytes) before.length >
            (before ++ bytes).length := by
        rw [length, List.length_append]
        omega
      exact if_pos incomplete
  · rfl

theorem recordsFrom_flatMap (capture : List PacketRecord) (before : Bytes) {cut : Bytes}
    (cutOff : CutOff cut) :
    recordsFrom (before ++ (capture.flatMap PacketRecord.bytes ++ cut)) before.length =
      capture.map fun record => (record.ptype, record.payload) := by
  induction capture generalizing before with
  | nil => exact recordsFrom_cutOff before cutOff
  | cons record capture induction =>
      rw [List.flatMap_cons, List.append_assoc, recordsFrom_record, List.map_cons,
        ← List.append_assoc before, induction]

/-- The complete records are read, in order. -/
theorem records_flatMap (capture : List PacketRecord) {cut : Bytes} (cutOff : CutOff cut) :
    records (capture.flatMap PacketRecord.bytes ++ cut) =
      capture.map fun record => (record.ptype, record.payload) :=
  recordsFrom_flatMap capture [] cutOff

end Capture

end SmartblindsBle
