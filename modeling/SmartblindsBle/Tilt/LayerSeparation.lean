import SmartblindsBle.Tilt.ShadeSide

/-! # The handshake layer's frames

Their grammar, and why no frame belongs to both layers: the top bit of the first
byte is set in the handshake layer and clear in the application layer.
-/

namespace SmartblindsBle

open Foundation

/-- `80 00 ++ [command] ++ payload` and the checksum of these bytes. -/
def framedBytes (command : UInt8) (payload : Bytes) : Bytes :=
  [0x80, 0x00] ++ [command] ++ payload ++
    toLittleEndian 2 (crc16 ([0x80, 0x00] ++ [command] ++ payload))

/-- The values of the handshake commands. -/
def cryptoCommandValues : List UInt8 := [0x01, 0x02, 0x03, 0x0A]

theorem cryptoFrame_eq (command : CryptoCommand) (payload : Bytes) :
    cryptoFrame command payload = framedBytes command.value payload := by
  have header : cryptoHeader = [0x80, 0x00] := by decide
  simp only [cryptoFrame, appendChecksum, header, framedBytes, List.append_assoc]

theorem mem_cryptoCommandValues (value : UInt8) :
    value ∈ cryptoCommandValues ↔ ∃ command : CryptoCommand, command.value = value := by
  constructor
  · intro member
    simp only [cryptoCommandValues, List.mem_cons, List.not_mem_nil, or_false] at member
    rcases member with rfl | rfl | rfl | rfl
    · exact ⟨.ack, rfl⟩
    · exact ⟨.requestProtocolVersions, rfl⟩
    · exact ⟨.selectProtocolVersion, rfl⟩
    · exact ⟨.requestNonce, rfl⟩
  · rintro ⟨command, rfl⟩
    cases command <;> decide

theorem parseCryptoResponse_cryptoFrame (command : CryptoCommand) (payload : Bytes) :
    parseCryptoResponse (cryptoFrame command payload) = .ok ⟨command, payload⟩ :=
  parseCryptoResponse_eq_ok_iff.mpr rfl

/-! ## Requests -/

theorem encodeProtocolVersionsRequest_eq :
    encodeProtocolVersionsRequest = .ok (cryptoFrame .requestProtocolVersions []) := rfl

theorem encodeNonceRequest_eq : encodeNonceRequest = .ok (cryptoFrame .requestNonce []) := rfl

theorem encodeProtocolSelection_eq_ok_iff {version : Int} {frame : Bytes} :
    encodeProtocolSelection version = .ok frame ↔
      (version = 1 ∨ version = 2) ∧
        frame = cryptoFrame .selectProtocolVersion [UInt8.ofNat version.toNat] := by
  constructor
  · intro encoded
    unfold encodeProtocolSelection encodeCryptoRequest at encoded
    split at encoded
    · next inRange =>
        simp only at encoded
        split at encoded
        · next supported =>
            cases encoded
            refine ⟨?_, rfl⟩
            have small : version.toNat % 256 = 2 ∨ version.toNat % 256 = 1 := by
              simpa [supportedCryptoProtocols, ← UInt8.toNat_inj] using supported
            omega
        · cases encoded
    · cases encoded
  · rintro ⟨rfl | rfl, rfl⟩
    · rfl
    · rfl

/-! ## Layers -/

/-- A frame of the handshake layer is never taken for an application response. -/
theorem decodeApplicationResponse_cryptoFrame (command : CryptoCommand) (payload : Bytes)
    (primitives : CryptoPrimitives) (key nonce : Bytes) (expectedCommand : ShadeCommand)
    (expectedMessageId : Int) (expectedCounter : Option Int) (response : ApplicationResponse) :
    decodeApplicationResponse primitives (cryptoFrame command payload) key nonce expectedCommand
      expectedMessageId expectedCounter ≠ .ok response := by
  intro accepted
  have header : (cryptoFrame command payload).take 2 = cryptoHeader := rfl
  have marked : ofBigEndian cryptoHeader &&& cryptoLayerFlag ≠ 0 := by decide
  unfold decodeApplicationResponse at accepted
  simp only [header, marked, ne_eq, not_false_eq_true, reduceIte] at accepted
  repeat' split at accepted
  all_goals cases accepted

/-- The exact grammar of the handshake layer, what its request encoders make,
and its separation from the application layer. -/
theorem parseCryptoResponse_grammar :
    (∀ frame value payload,
      (∃ command, parseCryptoResponse frame = .ok ⟨command, payload⟩ ∧ command.value = value) ↔
        value ∈ cryptoCommandValues ∧ frame = framedBytes value payload) ∧
      (∃ frame, encodeProtocolVersionsRequest = .ok frame ∧
        parseCryptoResponse frame = .ok ⟨.requestProtocolVersions, []⟩) ∧
      (∀ version frame, encodeProtocolSelection version = .ok frame →
        ∃ byte : UInt8, (byte.toNat : Int) = version ∧
          parseCryptoResponse frame = .ok ⟨.selectProtocolVersion, [byte]⟩) ∧
      (∃ frame, encodeNonceRequest = .ok frame ∧
        parseCryptoResponse frame = .ok ⟨.requestNonce, []⟩) ∧
      ∀ frame response, parseCryptoResponse frame = .ok response →
        ∀ primitives key nonce expectedCommand expectedMessageId expectedCounter application,
          decodeApplicationResponse primitives frame key nonce expectedCommand expectedMessageId
            expectedCounter ≠ .ok application := by
  refine ⟨?_, ⟨_, encodeProtocolVersionsRequest_eq, parseCryptoResponse_cryptoFrame _ _⟩, ?_,
    ⟨_, encodeNonceRequest_eq, parseCryptoResponse_cryptoFrame _ _⟩, ?_⟩
  · intro frame value payload
    constructor
    · rintro ⟨command, parsed, rfl⟩
      have framed := parseCryptoResponse_eq_ok_iff.mp parsed
      exact ⟨(mem_cryptoCommandValues _).mpr ⟨command, rfl⟩, framed.trans (cryptoFrame_eq _ _)⟩
    · rintro ⟨member, rfl⟩
      rcases (mem_cryptoCommandValues value).mp member with ⟨command, rfl⟩
      rw [← cryptoFrame_eq]
      exact ⟨command, parseCryptoResponse_cryptoFrame command payload, rfl⟩
  · intro version frame encoded
    rcases encodeProtocolSelection_eq_ok_iff.mp encoded with ⟨supported, rfl⟩
    refine ⟨UInt8.ofNat version.toNat, ?_, parseCryptoResponse_cryptoFrame _ _⟩
    rcases supported with rfl | rfl
    · rfl
    · rfl
  · intro frame response parsed
    rw [parseCryptoResponse_eq_ok_iff.mp parsed]
    exact decodeApplicationResponse_cryptoFrame response.command response.payload

end SmartblindsBle
