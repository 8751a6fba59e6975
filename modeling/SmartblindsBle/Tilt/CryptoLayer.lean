import SmartblindsBle.Tilt.Checksum

/-! # The plaintext handshake layer

Three requests are exchanged before any encrypted frame: the list of crypto
protocols, the selection of one, and the session nonce with a proof that the
shade holds the pairing key.
-/

namespace SmartblindsBle

open Foundation

/-- The primitives of the cryptography package and of `hmac`. AES-128 on one
block and HMAC-SHA256 are left arbitrary; a digest has 32 bytes. -/
structure CryptoPrimitives where
  aesEncryptBlock : (key block : Bytes) → Bytes
  hmacSha256 : (key message : Bytes) → Bytes
  hmacSha256_length : ∀ key message, (hmacSha256 key message).length = 32

/-- A pairing key has 32 bytes, as the constructor of `TiltShadeClient` checks. -/
structure PairingKey where
  bytes : Bytes
  length_eq : bytes.length = 32

def cryptoLayerFlag : Nat := 0x8000

/-- `b"Signed Trogdor string, by Ryjan."` -/
def pairingKeyProofMessage : Bytes :=
  [0x53, 0x69, 0x67, 0x6E, 0x65, 0x64, 0x20, 0x54, 0x72, 0x6F, 0x67, 0x64, 0x6F, 0x72, 0x20,
    0x73, 0x74, 0x72, 0x69, 0x6E, 0x67, 0x2C, 0x20, 0x62, 0x79, 0x20, 0x52, 0x79, 0x6A, 0x61,
    0x6E, 0x2E]

/-! ## Key proof -/

def pairingKeyProof (primitives : CryptoPrimitives) (key : Bytes) : Raises Bytes :=
  if key.length ≠ 32 then
    .error (.tiltProtocolError "Tilt pairing keys must be exactly 32 bytes.")
  else .ok (primitives.hmacSha256 key pairingKeyProofMessage)

def pairingKeyMatchesProof (primitives : CryptoPrimitives) (key proof : Bytes) : Raises Bool :=
  if proof.length ≠ 32 then .ok false
  else (pairingKeyProof primitives key).map fun expected => expected == proof

theorem PairingKey.matchesProof_iff (primitives : CryptoPrimitives) (key : PairingKey)
    (proof : Bytes) :
    pairingKeyMatchesProof primitives key.bytes proof = .ok true ↔
      proof = primitives.hmacSha256 key.bytes pairingKeyProofMessage := by
  unfold pairingKeyMatchesProof pairingKeyProof
  by_cases proofLength : proof.length = 32
  · rw [if_neg (not_not.mpr proofLength), if_neg (not_not.mpr key.length_eq)]
    simp only [Except.map, Except.ok.injEq, beq_iff_eq]
    exact eq_comm
  · simp only [ne_eq, proofLength, not_false_eq_true, if_true]
    constructor
    · intro impossible
      cases impossible
    · rintro rfl
      exact absurd (primitives.hmacSha256_length _ _) proofLength

theorem PairingKey.matchesProof_ok (primitives : CryptoPrimitives) (key : PairingKey)
    (proof : Bytes) : ∃ decision,
      pairingKeyMatchesProof primitives key.bytes proof = .ok decision := by
  unfold pairingKeyMatchesProof pairingKeyProof
  by_cases proofLength : proof.length = 32
  · simp [proofLength, key.length_eq, Except.map]
  · simp [proofLength]

/-! ## Requests -/

def cryptoHeader : Bytes := toBigEndian 2 cryptoLayerFlag

def encodeCryptoRequest (command : CryptoCommand) (payload : Bytes) : Raises Bytes :=
  let framed := appendChecksum cryptoHeader ([command.value] ++ payload)
  match command with
  | .requestProtocolVersions =>
      if payload ≠ [] then
        .error (.unsafeCommandError "Protocol-version request does not accept a payload.")
      else .ok framed
  | .selectProtocolVersion =>
      match payload with
      | [version] =>
          if version ∈ supportedCryptoProtocols then .ok framed
          else .error (.unsafeCommandError
            "Only supported AES-CTR protocol versions may be selected.")
      | _ => .error (.unsafeCommandError
          "Only supported AES-CTR protocol versions may be selected.")
  | .requestNonce =>
      if payload ≠ [] then
        .error (.unsafeCommandError "Nonce request does not accept a payload.")
      else .ok framed
  | .ack => .error (.unsafeCommandError "Crypto command is not in the runtime allowlist.")

def encodeProtocolVersionsRequest : Raises Bytes :=
  encodeCryptoRequest .requestProtocolVersions []

def encodeProtocolSelection (version : Int) : Raises Bytes :=
  if 0 ≤ version ∧ version < 256 then
    encodeCryptoRequest .selectProtocolVersion [UInt8.ofNat version.toNat]
  else .error (.unsafeCommandError "Protocol version must fit in one byte.")

def encodeNonceRequest : Raises Bytes := encodeCryptoRequest .requestNonce []

/-! ## Responses -/

structure CryptoResponse where
  command : CryptoCommand
  payload : Bytes
  deriving DecidableEq, Repr

structure NonceResponse where
  nonce : Bytes
  keyProof : Bytes
  deriving DecidableEq, Repr

/-- The members that `parse_crypto_response` lists, which are all of them. -/
def allowedCryptoResponses : List CryptoCommand :=
  [.ack, .requestProtocolVersions, .selectProtocolVersion, .requestNonce]

def parseCryptoResponse (frame : Bytes) : Raises CryptoResponse :=
  if frame.length < 5 then .error (.tiltProtocolError "Crypto response is too short.")
  else
    let header := frame.take 2
    if ofBigEndian header ≠ cryptoLayerFlag then
      .error (.tiltProtocolError "Expected an unencrypted crypto-layer response.")
    else
      match verifyChecksum header (frame.drop 2) with
      | .error error => .error error
      | .ok [] => .error (.tiltProtocolError "Unknown crypto response command.")
      | .ok (first :: payload) =>
          match CryptoCommand.ofValue? first with
          | none => .error (.tiltProtocolError "Unknown crypto response command.")
          | some command =>
              if command ∉ allowedCryptoResponses then
                .error (.unsafeCommandError
                  "Crypto response is outside the runtime allowlist.")
              else .ok ⟨command, payload⟩

def parseProtocolVersions (response : CryptoResponse) : Raises (List UInt8) :=
  if response.command ≠ .requestProtocolVersions then
    .error (.tiltProtocolError "Expected a protocol-version response.")
  else
    match response.payload with
    | [] => .error (.tiltProtocolError "Protocol-version response is missing its count.")
    | count :: rest =>
        let versions := rest.take count.toNat
        if versions.length ≠ count.toNat then
          .error (.tiltProtocolError
            "Protocol-version response length does not match its count.")
        else .ok versions

def parseNonceResponse (response : CryptoResponse) : Raises NonceResponse :=
  if response.command ≠ .requestNonce then
    .error (.tiltProtocolError "Expected a nonce response.")
  else if response.payload.length ≠ 44 then
    .error (.tiltProtocolError "Nonce response must contain 12 nonce and 32 proof bytes.")
  else .ok ⟨response.payload.take 12, response.payload.drop 12⟩

/-! ## The frames of the handshake -/

/-- The shade-side frame with a command and its payload. -/
def cryptoFrame (command : CryptoCommand) (payload : Bytes) : Bytes :=
  appendChecksum cryptoHeader ([command.value] ++ payload)

@[simp] theorem cryptoFrame_length (command : CryptoCommand) (payload : Bytes) :
    (cryptoFrame command payload).length = payload.length + 5 := by
  simp only [cryptoFrame, appendChecksum, cryptoHeader, List.length_append,
    toBigEndian_length, toLittleEndian_length, List.length_singleton]
  omega

theorem cryptoFrame_nonempty (command : CryptoCommand) (payload : Bytes) :
    cryptoFrame command payload ≠ [] := by
  intro isNil
  have noBytes := congrArg List.length isNil
  rw [cryptoFrame_length] at noBytes
  cases noBytes

/-- `parseCryptoResponse` accepts exactly the frames of the handshake layer. -/
theorem parseCryptoResponse_eq_ok_iff {frame : Bytes} {response : CryptoResponse} :
    parseCryptoResponse frame = .ok response ↔
      frame = cryptoFrame response.command response.payload := by
  constructor
  · intro accepted
    unfold parseCryptoResponse at accepted
    split at accepted
    · cases accepted
    · next long =>
        simp only at accepted
        split at accepted
        · cases accepted
        · next sameHeader =>
            have headerLength : (frame.take 2).length = 2 := by
              rw [List.length_take]
              omega
            have header : frame.take 2 = cryptoHeader := by
              have bytes := toBigEndian_ofBigEndian (frame.take 2)
              rw [headerLength, not_not.mp sameHeader] at bytes
              exact bytes.symm
            cases verified : verifyChecksum (frame.take 2) (frame.drop 2) with
            | error error => simp [verified] at accepted
            | ok presented =>
                have framed := (verifyChecksum_eq_ok_iff.mp verified).2
                cases presented with
                | nil => simp [verified] at accepted
                | cons first payload =>
                    rw [verified] at accepted
                    simp only at accepted
                    split at accepted
                    · cases accepted
                    · next command found =>
                        split at accepted
                        · cases accepted
                        · cases accepted
                          rw [header] at framed
                          have whole := (List.take_append_drop 2 frame).symm
                          rw [framed, header] at whole
                          rw [whole]
                          simp [cryptoFrame, appendChecksum,
                            CryptoCommand.ofValue?_eq_some found]
  · rintro rfl
    have header : (cryptoFrame response.command response.payload).take 2 = cryptoHeader := rfl
    have rest : (cryptoFrame response.command response.payload).drop 2 =
        (response.command.value :: response.payload) ++
          toLittleEndian 2 (crc16 (cryptoHeader ++ response.command.value :: response.payload)) :=
      rfl
    have verified : verifyChecksum cryptoHeader
          ((response.command.value :: response.payload) ++
            toLittleEndian 2
              (crc16 (cryptoHeader ++ response.command.value :: response.payload))) =
        .ok (response.command.value :: response.payload) :=
      verifyChecksum_eq_ok_iff.mpr ⟨List.cons_ne_nil _ _, rfl⟩
    have long : ¬(cryptoFrame response.command response.payload).length < 5 := by
      simp only [cryptoFrame, appendChecksum, cryptoHeader, List.length_append,
        toBigEndian_length, toLittleEndian_length, List.length_singleton]
      omega
    have allowed : response.command ∈ allowedCryptoResponses := by
      cases response.command <;> decide
    rw [parseCryptoResponse, if_neg long]
    simp only [header, rest, verified]
    rw [if_neg (by decide)]
    simp [allowed]

end SmartblindsBle
