import SmartblindsBle.Tilt.Session

/-! # What the codec raises

Every error of the codec is a `TiltProtocolError`. It is an `AuthenticationError`
only where a checksum does not match, or where a nonce response carries another
proof than the pairing key's.
-/

namespace SmartblindsBle

open Foundation

/-- The bytes are long enough to carry a checksum, and it is not theirs. -/
def FailsChecksum (header framed : Bytes) : Prop :=
  3 ≤ framed.length ∧ framed.drop (framed.length - 2) ≠
    toLittleEndian 2 (crc16 (header ++ framed.take (framed.length - 2)))

instance (header framed : Bytes) : Decidable (FailsChecksum header framed) :=
  inferInstanceAs (Decidable (_ ∧ _))

/-- A message under the header of the handshake fails its checksum. -/
def FrameFailsChecksum (frame : Bytes) : Prop :=
  ofBigEndian (frame.take 2) = cryptoLayerFlag ∧ FailsChecksum (frame.take 2) (frame.drop 2)

instance (frame : Bytes) : Decidable (FrameFailsChecksum frame) :=
  inferInstanceAs (Decidable (_ ∧ _))

/-- The counter in the header of a message of the application layer. -/
def headerCounter (frame : Bytes) : Int := (ofBigEndian (frame.take 2) &&& maxCounter.toNat : Nat)

/-- A message under a header of the application layer fails its checksum once it is
decrypted. -/
def ResponseFailsChecksum (primitives : CryptoPrimitives) (key nonce frame : Bytes) : Prop :=
  6 ≤ frame.length ∧ ofBigEndian (frame.take 2) &&& cryptoLayerFlag = 0 ∧
    FailsChecksum (frame.take 2)
      (aesCtr primitives (frame.drop 2) key (responseBlock nonce (frame.take 2)))

instance (primitives : CryptoPrimitives) (key nonce frame : Bytes) :
    Decidable (ResponseFailsChecksum primitives key nonce frame) :=
  inferInstanceAs (Decidable (_ ∧ _ ∧ _))

/-! ## The link layer -/

theorem nextSequence_raises (sequence : Nat) :
    RaisesOnly (·.isMalformed = true) (nextSequence sequence) := by
  intro error failed
  unfold nextSequence at failed
  split at failed
  · cases failed
  · cases failed
    rfl

theorem parseBleChunk_raises (data : Bytes) :
    RaisesOnly (·.isMalformed = true) (parseBleChunk data) := by
  intro error failed
  unfold parseBleChunk at failed
  dsimp only at failed
  repeat' split at failed
  all_goals
    cases failed
    try rfl

theorem chunkLoop_raises (frame : Bytes) (offsets : List Nat) (sequence : Nat) :
    RaisesOnly (·.isMalformed = true) (chunkLoop frame offsets sequence) := by
  induction offsets generalizing sequence with
  | nil => exact RaisesOnly.ok _
  | cons offset offsets induction =>
      intro error failed
      unfold chunkLoop at failed
      dsimp only at failed
      split at failed
      · next refused =>
          cases failed
          exact nextSequence_raises sequence error refused
      · next next advanced =>
          cases rest : chunkLoop frame offsets next with
          | error refused =>
              rw [rest] at failed
              cases failed
              exact induction next error rest
          | ok chunks =>
              rw [rest] at failed
              cases failed

theorem chunkForBle_raises (frame : Bytes) (startSequence : Nat) :
    RaisesOnly (·.isMalformed = true) (chunkForBle frame startSequence) := by
  intro error failed
  unfold chunkForBle at failed
  split at failed
  · cases failed
    rfl
  · split at failed
    · cases failed
      rfl
    · exact chunkLoop_raises _ _ _ error failed

theorem makeBleAck_raises (sequence : Nat) :
    RaisesOnly (·.isMalformed = true) (makeBleAck sequence) := by
  intro error failed
  unfold makeBleAck at failed
  repeat' split at failed
  all_goals
    cases failed
    try rfl

theorem parseBleAck_raises (data : Bytes) :
    RaisesOnly (·.isMalformed = true) (parseBleAck data) := by
  intro error failed
  unfold parseBleAck at failed
  repeat' split at failed
  all_goals first
    | (cases failed; rfl)
    | cases failed
  · next refused => exact parseBleChunk_raises data _ refused

theorem add_raises (assembler : BleMessageAssembler) (data : Bytes) :
    RaisesOnly (·.isMalformed = true) (assembler.add data).2 := by
  intro error failed
  unfold BleMessageAssembler.add at failed
  repeat' split at failed
  all_goals first
    | (cases failed; rfl)
    | cases failed
  · next refused => exact parseBleChunk_raises data _ refused

/-! ## Checksums -/

/-- An error that is malformed input, or an `AuthenticationError` for which
there is a reason. -/
def MalformedOr (reason : Prop) (error : PythonException) : Prop :=
  error.isMalformed = true ∨ (error.isAuthenticationError = true ∧ reason)

theorem verifyChecksum_raises (header framed : Bytes) :
    RaisesOnly (MalformedOr (FailsChecksum header framed)) (verifyChecksum header framed) := by
  intro error failed
  unfold verifyChecksum at failed
  split at failed
  · cases failed
    exact .inl rfl
  · next long =>
      dsimp only at failed
      split at failed
      · next differs =>
          cases failed
          refine .inr ⟨rfl, Nat.not_lt.mp long, ?_⟩
          intro same
          have twoBytes : (framed.drop (framed.length - 2)).length = 2 := by
            rw [List.length_drop]
            omega
          have trailer := toLittleEndian_ofLittleEndian (framed.drop (framed.length - 2))
          rw [twoBytes] at trailer
          exact differs (trailer.trans same)
      · cases failed

/-! ## The crypto layer -/

theorem encodeCryptoRequest_raises (command : CryptoCommand) (payload : Bytes) :
    RaisesOnly (·.isMalformed = true) (encodeCryptoRequest command payload) := by
  intro error failed
  unfold encodeCryptoRequest at failed
  dsimp only at failed
  repeat' split at failed
  all_goals
    cases failed
    try rfl

theorem encodeProtocolSelection_raises (version : Int) :
    RaisesOnly (·.isMalformed = true) (encodeProtocolSelection version) := by
  intro error failed
  unfold encodeProtocolSelection at failed
  split at failed
  · exact encodeCryptoRequest_raises _ _ error failed
  · cases failed
    rfl

theorem parseCryptoResponse_raises (frame : Bytes) :
    RaisesOnly (MalformedOr (FrameFailsChecksum frame)) (parseCryptoResponse frame) := by
  intro error failed
  unfold parseCryptoResponse at failed
  dsimp only at failed
  split at failed
  · cases failed
    exact .inl rfl
  · split at failed
    · cases failed
      exact .inl rfl
    · next isCrypto =>
        split at failed
        · next refused =>
            cases failed
            rcases verifyChecksum_raises _ _ _ refused with malformed | ⟨isError, fails⟩
            · exact .inl malformed
            · exact .inr ⟨isError, not_not.mp isCrypto, fails⟩
        · cases failed
          exact .inl rfl
        · repeat' split at failed
          all_goals first
            | (cases failed; exact .inl rfl)
            | cases failed

theorem parseProtocolVersions_raises (response : CryptoResponse) :
    RaisesOnly (·.isMalformed = true) (parseProtocolVersions response) := by
  intro error failed
  unfold parseProtocolVersions at failed
  dsimp only at failed
  repeat' split at failed
  all_goals
    cases failed
    try rfl

theorem parseNonceResponse_raises (response : CryptoResponse) :
    RaisesOnly (·.isMalformed = true) (parseNonceResponse response) := by
  intro error failed
  unfold parseNonceResponse at failed
  repeat' split at failed
  all_goals
    cases failed
    try rfl

/-! ## The application layer -/

theorem decodeApplicationResponse_raises (primitives : CryptoPrimitives)
    (frame key nonce : Bytes) (expectedCommand : ShadeCommand)
    (expectedMessageId expectedCounter : Int) :
    RaisesOnly
      (MalformedOr (headerCounter frame = expectedCounter ∧
        ResponseFailsChecksum primitives key nonce frame))
      (decodeApplicationResponse primitives frame key nonce expectedCommand expectedMessageId
        (some expectedCounter)) := by
  intro error failed
  unfold decodeApplicationResponse at failed
  dsimp only at failed
  split at failed
  · next refused =>
      cases failed
      exact .inl (requireKeyAndNonce_raises key nonce _ refused)
  · split at failed
    · cases failed
      exact .inl rfl
    · split at failed
      · cases failed
        exact .inl rfl
      · next long =>
          split at failed
          · cases failed
            exact .inl rfl
          · next isApplication =>
              split at failed
              · next refused =>
                  cases failed
                  exact .inl (counterHeader_raises _ _ refused)
              · split at failed
                · cases failed
                  exact .inl rfl
                · next sameCounter =>
                    split at failed
                    · next refused =>
                        cases failed
                        rcases verifyChecksum_raises _ _ _ refused with malformed | ⟨isError, fails⟩
                        · exact .inl malformed
                        · have isCounter : headerCounter frame = expectedCounter := by
                            by_contra differs
                            exact sameCounter ⟨rfl, fun same => differs (Option.some.inj same).symm⟩
                          exact .inr ⟨isError, isCounter, Nat.not_lt.mp long,
                            not_not.mp isApplication, fails⟩
                    · exact .inl (decodePresentation_raises _ _ _ _ _ failed)

/-! ## The handshake -/

theorem selectedProtocol_raises (frame : Bytes) :
    RaisesOnly (MalformedOr (FrameFailsChecksum frame))
      (TiltBleSession.selectedProtocol frame) := by
  intro error failed
  unfold TiltBleSession.selectedProtocol at failed
  repeat' split at failed
  all_goals first
    | (cases failed; exact .inl rfl)
    | cases failed
  · next refused => exact parseCryptoResponse_raises _ _ refused
  · next refused => exact .inl (parseProtocolVersions_raises _ _ refused)

theorem checkSelection_raises (frame : Bytes) (selected : UInt8) :
    RaisesOnly (MalformedOr (FrameFailsChecksum frame))
      (TiltBleSession.checkSelection frame selected) := by
  intro error failed
  unfold TiltBleSession.checkSelection at failed
  repeat' split at failed
  all_goals first
    | (cases failed; exact .inl rfl)
    | cases failed
  · next refused => exact parseCryptoResponse_raises _ _ refused

/-- A message that is a nonce response carries the proof of the key. -/
def CarriesProof (primitives : CryptoPrimitives) (key : PairingKey) (frame : Bytes) : Prop :=
  ∀ response nonceResponse, parseCryptoResponse frame = .ok response →
    parseNonceResponse response = .ok nonceResponse →
      nonceResponse.keyProof = primitives.hmacSha256 key.bytes pairingKeyProofMessage

theorem verifiedNonce_raises (primitives : CryptoPrimitives) (key : PairingKey) (frame : Bytes) :
    RaisesOnly (MalformedOr (FrameFailsChecksum frame ∨ ¬CarriesProof primitives key frame))
      (TiltBleSession.verifiedNonce primitives key frame) := by
  intro error failed
  unfold TiltBleSession.verifiedNonce at failed
  split at failed
  · next refused =>
      cases failed
      rcases parseCryptoResponse_raises frame error refused with malformed | ⟨isError, fails⟩
      · exact .inl malformed
      · exact .inr ⟨isError, .inl fails⟩
  · next response parsed =>
      split at failed
      · next refused =>
          cases failed
          exact .inl (parseNonceResponse_raises response error refused)
      · next nonceResponse isNonce =>
          rcases key.matchesProof_ok primitives nonceResponse.keyProof with ⟨decision, decided⟩
          rw [decided] at failed
          cases decision with
          | true => cases failed
          | false =>
              cases failed
              refine .inr ⟨rfl, .inr ?_⟩
              intro proves
              have accepted := (key.matchesProof_iff primitives nonceResponse.keyProof).mpr
                (proves response nonceResponse parsed isNonce)
              rw [decided] at accepted
              cases accepted

end SmartblindsBle
