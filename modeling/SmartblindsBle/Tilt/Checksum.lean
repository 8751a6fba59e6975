import SmartblindsBle.Tilt.Types

/-! # The checksum

CRC-16/CCITT-FALSE, appended to a frame in little-endian order.
-/

namespace SmartblindsBle

open Foundation

/-- One pass of the loop of `crc16`. -/
def crc16Step (value : Nat) (byte : UInt8) : Nat :=
  let swapped := (((value <<< 8) ||| (value >>> 8)) &&& 0xFFFF) ^^^ byte.toNat
  let low := swapped ^^^ ((swapped &&& 0xFF) >>> 4)
  let high := low ^^^ ((low <<< 12) &&& 0xFFFF)
  high ^^^ (((high &&& 0xFF) <<< 5) &&& 0xFFFF)

def crc16 (data : Bytes) : Nat := data.foldl crc16Step 0xFFFF &&& 0xFFFF

theorem crc16_lt (data : Bytes) : crc16 data < 256 ^ 2 :=
  Nat.lt_succ_of_le Nat.and_le_right

def appendChecksum (header payload : Bytes) : Bytes :=
  header ++ payload ++ toLittleEndian 2 (crc16 (header ++ payload))

def verifyChecksum (header payloadWithChecksum : Bytes) : Raises Bytes :=
  if payloadWithChecksum.length < 3 then
    .error (.tiltProtocolError "Tilt message is too short for payload and checksum.")
  else
    let payload := payloadWithChecksum.take (payloadWithChecksum.length - 2)
    let received :=
      ofLittleEndian (payloadWithChecksum.drop (payloadWithChecksum.length - 2))
    if toLittleEndian 2 received ≠ toLittleEndian 2 (crc16 (header ++ payload)) then
      .error (.authenticationError "Tilt message checksum verification failed.")
    else .ok payload

/-- What `verifyChecksum` accepts: a non-empty payload and its checksum. -/
theorem verifyChecksum_eq_ok_iff {header framed payload : Bytes} :
    verifyChecksum header framed = .ok payload ↔
      payload ≠ [] ∧ framed = payload ++ toLittleEndian 2 (crc16 (header ++ payload)) := by
  constructor
  · intro accepted
    unfold verifyChecksum at accepted
    split at accepted
    · cases accepted
    · next long =>
        simp only at accepted
        split at accepted
        · cases accepted
        · next same =>
            cases accepted
            have twoBytes : (framed.drop (framed.length - 2)).length = 2 := by
              rw [List.length_drop]
              omega
            have trailer := toLittleEndian_ofLittleEndian (framed.drop (framed.length - 2))
            rw [twoBytes] at trailer
            constructor
            · intro isNil
              have isShort := congrArg List.length isNil
              rw [List.length_take, List.length_nil] at isShort
              omega
            · rw [← not_not.mp same, trailer, List.take_append_drop]
  · rintro ⟨nonempty, rfl⟩
    have payloadPos := List.length_pos_iff.mpr nonempty
    have long : ¬(payload ++ toLittleEndian 2 (crc16 (header ++ payload))).length < 3 := by
      simp only [List.length_append, toLittleEndian_length]
      omega
    have cut : (payload ++ toLittleEndian 2 (crc16 (header ++ payload))).length - 2 =
        payload.length := by simp
    rw [verifyChecksum, if_neg long]
    simp only [cut, List.take_left, List.drop_left, ofLittleEndian_toLittleEndian,
      Nat.mod_eq_of_lt (crc16_lt _), ne_eq, not_true_eq_false, if_false]

end SmartblindsBle
