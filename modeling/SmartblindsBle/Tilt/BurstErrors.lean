import SmartblindsBle.Tilt.ChecksumReference
import SmartblindsBle.Tilt.Keystream

/-! # Short bursts of errors

An error pattern within two adjacent bytes changes the checksum of the bytes it
hits, whatever follows them. The counter mode passes an error pattern on to the
plaintext, so an altered ciphertext is rejected as well.
-/

namespace SmartblindsBle

open Foundation

/-- A byte string that ends with the checksum of what precedes. -/
def Checked (bytes : Bytes) : Prop := ∃ body, bytes = body ++ toLittleEndian 2 (crc16 body)

theorem appendChecksum_checked (header payload : Bytes) :
    Checked (appendChecksum header payload) :=
  ⟨header ++ payload, rfl⟩

theorem verifyChecksum_checked {header framed payload : Bytes}
    (accepted : verifyChecksum header framed = .ok payload) : Checked (header ++ framed) := by
  refine ⟨header ++ payload, ?_⟩
  rw [(verifyChecksum_eq_ok_iff.mp accepted).2, List.append_assoc]

theorem crc16_inj {first second : Bytes}
    (same : toLittleEndian 2 (crc16 first) = toLittleEndian 2 (crc16 second)) :
    ccittFalse first = ccittFalse second := by
  have values := congrArg ofLittleEndian same
  rw [ofLittleEndian_toLittleEndian, ofLittleEndian_toLittleEndian,
    Nat.mod_eq_of_lt (crc16_lt _), Nat.mod_eq_of_lt (crc16_lt _), crc16_eq, crc16_eq] at values
  exact BitVec.eq_of_toNat_eq values

theorem corrupt_eq_self {errors bytes : Bytes} (sameLength : errors.length = bytes.length)
    (unchanged : corrupt errors bytes = bytes) : ∀ error ∈ errors, error = 0 := by
  induction errors generalizing bytes with
  | nil => exact nofun
  | cons first errors induction =>
      cases bytes with
      | nil => cases sameLength
      | cons byte bytes =>
          rw [corrupt, List.zipWith_cons_cons] at unchanged
          rcases List.cons_eq_cons.mp unchanged with ⟨firstUnchanged, restUnchanged⟩
          have firstIsZero : first = 0 := by
            have cancelled := congrArg (· ^^^ byte) firstUnchanged
            simpa [UInt8.xor_assoc] using cancelled
          intro error member
          rcases List.mem_cons.mp member with rfl | later
          · exact firstIsZero
          · exact induction (Nat.succ.inj sameLength) restUnchanged error later

/-- Where an error pattern lies: in the checked bytes, or in the checksum. -/
def Within (before : Nat) (burst body : Bytes) : Prop :=
  before + burst.length ≤ body.length ∨ body.length ≤ before

theorem corrupt_notChecked {body burst : Bytes} {before after : Nat}
    (short : burst.length ≤ 2) (nonzero : ∃ error ∈ burst, error ≠ 0)
    (sameLength : before + burst.length + after = body.length + 2)
    (within : Within before burst body) :
    ¬Checked (corrupt (burstPattern before burst after)
      (body ++ toLittleEndian 2 (crc16 body))) := by
  rintro ⟨corrupted, split⟩
  rcases within with inBody | inChecksum
  · have afterIs : after = body.length - (before + burst.length) + 2 := by omega
    have pattern : burstPattern before burst after =
        burstPattern before burst (body.length - (before + burst.length)) ++
          List.replicate 2 0 := by
      rw [burstPattern, afterIs, List.replicate_add, ← List.append_assoc]
      rfl
    have patternLength : (burstPattern before burst
        (body.length - (before + burst.length))).length = body.length := by
      rw [burstPattern_length]
      omega
    have trailer := corrupt_zeros (toLittleEndian 2 (crc16 body))
    rw [toLittleEndian_length] at trailer
    rw [pattern, corrupt_append patternLength, trailer] at split
    rcases List.append_inj' split (by simp) with ⟨sameBody, sameTrailer⟩
    have sameRemainder := crc16_inj sameTrailer
    rw [← sameBody] at sameRemainder
    exact divide_corrupt_ne (by decide) _ (by omega) nonzero patternLength sameRemainder.symm
  · have pattern : burstPattern before burst after =
        List.replicate body.length 0 ++ burstPattern (before - body.length) burst after := by
      have beforeIs : before = body.length + (before - body.length) := by omega
      rw [burstPattern, burstPattern, ← List.append_assoc, ← List.append_assoc,
        ← List.replicate_add, ← beforeIs]
    have patternLength : (burstPattern (before - body.length) burst after).length =
        (toLittleEndian 2 (crc16 body)).length := by
      rw [burstPattern_length, toLittleEndian_length]
      omega
    rw [pattern, corrupt_append List.length_replicate, corrupt_zeros] at split
    have bodyLength : (corrupt (burstPattern (before - body.length) burst after)
        (toLittleEndian 2 (crc16 body))).length = (toLittleEndian 2 (crc16 corrupted)).length := by
      rw [corrupt_length patternLength, toLittleEndian_length, toLittleEndian_length]
    rcases List.append_inj' split bodyLength with ⟨sameBody, sameTrailer⟩
    rw [← sameBody] at sameTrailer
    rcases nonzero with ⟨error, member, isNonzero⟩
    apply isNonzero
    apply corrupt_eq_self patternLength sameTrailer error
    exact List.mem_append_left _ (List.mem_append_right _ member)

/-! ## The codec -/

theorem verifyChecksum_corrupt {header payload burst : Bytes} {before after : Nat}
    (short : burst.length ≤ 2) (nonzero : ∃ error ∈ burst, error ≠ 0)
    (sameLength : before + burst.length + after = (appendChecksum header payload).length)
    (within : Within before burst (header ++ payload)) (split : Nat) :
    ∃ error, verifyChecksum
        ((corrupt (burstPattern before burst after) (appendChecksum header payload)).take split)
        ((corrupt (burstPattern before burst after) (appendChecksum header payload)).drop split) =
      .error error := by
  have notChecked := corrupt_notChecked short nonzero
    (by simpa [appendChecksum, Nat.add_assoc] using sameLength) within
  cases verified : verifyChecksum
      ((corrupt (burstPattern before burst after) (appendChecksum header payload)).take split)
      ((corrupt (burstPattern before burst after) (appendChecksum header payload)).drop split) with
  | error error => exact ⟨error, rfl⟩
  | ok accepted =>
      have checked := verifyChecksum_checked verified
      rw [List.take_append_drop] at checked
      exact absurd checked notChecked

theorem xorWith_corrupt (keystream : Nat → UInt8) (errors data : Bytes) :
    xorWith keystream (corrupt errors data) = corrupt errors (xorWith keystream data) := by
  induction errors generalizing keystream data with
  | nil => rfl
  | cons error errors induction =>
      cases data with
      | nil => rfl
      | cons byte data =>
          have rest := induction (fun index => keystream (index + 1)) data
          rw [corrupt, List.zipWith_cons_cons, xorWith, UInt8.xor_assoc]
          exact congrArg ((error ^^^ (byte ^^^ keystream 0)) :: ·) rest

theorem aesCtr_corrupt (primitives : CryptoPrimitives) (errors data key initialBlock : Bytes) :
    aesCtr primitives (corrupt errors data) key initialBlock =
      corrupt errors (aesCtr primitives data key initialBlock) :=
  xorWith_corrupt ..

theorem corrupt_afterHeader {header rest burst : Bytes} {before after : Nat}
    (twoBytes : header.length = 2) (later : 2 ≤ before) :
    corrupt (burstPattern before burst after) (header ++ rest) =
      header ++ corrupt (burstPattern (before - 2) burst after) rest := by
  have pattern : burstPattern before burst after =
      List.replicate header.length 0 ++ burstPattern (before - 2) burst after := by
    have beforeIs : before = header.length + (before - 2) := by omega
    rw [burstPattern, burstPattern, ← List.append_assoc, ← List.append_assoc,
      ← List.replicate_add, ← beforeIs]
  rw [pattern, corrupt_append List.length_replicate, corrupt_zeros]

/-- A ciphertext that was altered by a short burst before its checksum is rejected. -/
theorem decodeApplicationResponse_corrupt {primitives : CryptoPrimitives}
    {key nonce frame burst : Bytes} {before after : Nat} {expectedCommand : ShadeCommand}
    {expectedMessageId : Int} {expectedCounter : Option Int} {response : ApplicationResponse}
    (short : burst.length ≤ 2) (nonzero : ∃ error ∈ burst, error ≠ 0)
    (inCiphertext : 2 ≤ before) (beforeChecksum : 2 ≤ after)
    (sameLength : before + burst.length + after = frame.length)
    (accepted : decodeApplicationResponse primitives frame key nonce expectedCommand
      expectedMessageId expectedCounter = .ok response) :
    ∃ error, decodeApplicationResponse primitives
      (corrupt (burstPattern before burst after) frame) key nonce expectedCommand
        expectedMessageId expectedCounter = .error error := by
  rcases decodeApplicationResponse_decrypts accepted with
    ⟨decrypts, presentation, verified, _⟩
  have twoBytes : (frame.take 2).length = 2 := by
    have long := decrypts.long
    rw [List.length_take]
    omega
  cases decoded : decodeApplicationResponse primitives
      (corrupt (burstPattern before burst after) frame) key nonce expectedCommand
        expectedMessageId expectedCounter with
  | error error => exact ⟨error, rfl⟩
  | ok other =>
      rcases (decodeApplicationResponse_decrypts decoded).2 with
        ⟨presented, corruptVerified, _⟩
      have parts : corrupt (burstPattern before burst after) frame =
          frame.take 2 ++ corrupt (burstPattern (before - 2) burst after) (frame.drop 2) := by
        rw [← corrupt_afterHeader twoBytes inCiphertext, List.take_append_drop]
      rw [parts, List.take_left' twoBytes, List.drop_left' twoBytes, aesCtr_corrupt]
        at corruptVerified
      have corruptChecked := verifyChecksum_checked corruptVerified
      rw [← corrupt_afterHeader twoBytes inCiphertext] at corruptChecked
      rcases verifyChecksum_checked verified with ⟨body, whole⟩
      have bodyLength := congrArg List.length whole
      rw [List.length_append, twoBytes, aesCtr_length, List.length_drop, List.length_append,
        toLittleEndian_length] at bodyLength
      have long := decrypts.long
      rw [whole] at corruptChecked
      refine absurd corruptChecked (corrupt_notChecked short nonzero ?_ (.inl ?_))
      · omega
      · omega

/-- Short bursts are always detected: in a frame of `_append_checksum`, within what is
checked or within the checksum, and in the ciphertext of a valid response. -/
theorem shortBursts_rejected {burst : Bytes} {before after : Nat} (short : burst.length ≤ 2)
    (nonzero : ∃ error ∈ burst, error ≠ 0) :
    (∀ header payload,
      before + burst.length + after = (appendChecksum header payload).length →
      Within before burst (header ++ payload) →
      ∃ error, verifyChecksum
          ((corrupt (burstPattern before burst after)
            (appendChecksum header payload)).take header.length)
          ((corrupt (burstPattern before burst after)
            (appendChecksum header payload)).drop header.length) = .error error) ∧
    (∀ primitives frame key nonce expectedCommand expectedMessageId expectedCounter response,
      decodeApplicationResponse primitives frame key nonce expectedCommand expectedMessageId
        expectedCounter = .ok response →
      2 ≤ before → 2 ≤ after → before + burst.length + after = frame.length →
      ∃ error, decodeApplicationResponse primitives
        (corrupt (burstPattern before burst after) frame) key nonce expectedCommand
          expectedMessageId expectedCounter = .error error) := by
  constructor
  · intro header payload sameLength within
    exact verifyChecksum_corrupt short nonzero sameLength within header.length
  · intro primitives frame key nonce expectedCommand expectedMessageId expectedCounter response
      accepted inCiphertext beforeChecksum sameLength
    exact decodeApplicationResponse_corrupt short nonzero inCiphertext beforeChecksum sameLength
      accepted

/-- The reply to the first request, with the status of a closed shade. -/
def statusReply : Bytes :=
  encodeAppResponse .constant 0x10 [0, 0, 50, 0, 1] PairingKey.zero.bytes zeroNonce 1 1

theorem shortBursts_rejected_statusReply :
    (∃ error, verifyChecksum
        ((corrupt (burstPattern 4 [0x01, 0x80] 5)
          (appendChecksum [0, 1] [64, 16, 0, 0, 50, 0, 1])).take 2)
        ((corrupt (burstPattern 4 [0x01, 0x80] 5)
          (appendChecksum [0, 1] [64, 16, 0, 0, 50, 0, 1])).drop 2) = .error error) ∧
      ∃ error, decodeApplicationResponse .constant
        (corrupt (burstPattern 4 [0x01, 0x80] 5) statusReply) PairingKey.zero.bytes zeroNonce
          .getStatus 1 (some 1) = .error error := by
  have rejected := @shortBursts_rejected [0x01, 0x80] 4 5 (by decide) (by decide)
  constructor
  · exact rejected.1 [0, 1] [64, 16, 0, 0, 50, 0, 1] (by decide) (.inl (by decide))
  · exact rejected.2 .constant statusReply PairingKey.zero.bytes zeroNonce .getStatus 1 (some 1)
      ⟨.getStatus, 1, 1, [0, 0, 50, 0, 1]⟩ (by decide) (by decide) (by decide) (by decide)

end SmartblindsBle
