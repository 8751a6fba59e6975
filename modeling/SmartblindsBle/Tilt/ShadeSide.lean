import SmartblindsBle.Tilt.ApplicationLayer

/-! # The shade's half of the codec

The frames that a conforming shade builds and the decryption of the central's
requests, and what the central's parsers make of them.
-/

namespace SmartblindsBle

open Foundation

/-! ## Handshake replies -/

def versionsResponse (versions : List UInt8) : Bytes :=
  cryptoFrame .requestProtocolVersions (UInt8.ofNat versions.length :: versions)

def selectionResponse (version : UInt8) : Bytes :=
  cryptoFrame .selectProtocolVersion [version]

/-- The nonce and the proof that the shade holds `key`. -/
def nonceResponse (primitives : CryptoPrimitives) (nonce : Bytes) (key : PairingKey) : Bytes :=
  cryptoFrame .requestNonce (nonce ++ primitives.hmacSha256 key.bytes pairingKeyProofMessage)

/-! ## Application replies and requests -/

/-- `raw_position.to_bytes(2, "little") + bytes([battery, charge, calibrated])` -/
def statusPayload (status : ShadeStatus) : Bytes :=
  toLittleEndian 2 status.rawPosition ++
    [UInt8.ofNat status.batteryPercent, status.chargeStatus,
      if status.calibrated then 1 else 0]

/-- Encrypt an application response under the counter of its request. -/
def encodeAppResponse (primitives : CryptoPrimitives) (command : UInt8)
    (payload key nonce : Bytes) (counter messageId : Int) : Bytes :=
  let header := toBigEndian 2 counter.toNat
  let presentation :=
    [UInt8.ofNat messageId.toNat ||| presentationResponseFlag, command] ++ payload
  header ++ aesCtr primitives (withChecksum header presentation) key
    (responseBlock nonce header)

/-- A decrypted application request. -/
structure AppRequest where
  counter : Int
  messageId : Int
  command : ShadeCommand
  payload : Bytes
  deriving DecidableEq, Repr

def decryptAppRequest (primitives : CryptoPrimitives) (frame key nonce : Bytes) :
    Raises AppRequest :=
  let header := frame.take 2
  let counter : Int := (ofBigEndian header &&& maxCounter.toNat : Nat)
  let plaintext := aesCtr primitives (frame.drop 2) key (requestBlock nonce header)
  match verifyChecksum header plaintext with
  | .error error => .error error
  | .ok (idByte :: commandByte :: payload) =>
      match ShadeCommand.ofValue? commandByte with
      | none => .error (.other "ValueError")
      | some command => .ok ⟨counter, (idByte &&& 0x0F).toNat, command, payload⟩
  | .ok _ => .error (.other "IndexError")

/-! ## Counters and message ids as bytes -/

theorem counter_lt {counter : Int} (counterInRange : 1 ≤ counter ∧ counter ≤ maxCounter) :
    counter.toNat < 2 ^ 15 := by
  unfold maxCounter at counterInRange
  omega

theorem ofBigEndian_counter {counter : Int}
    (counterInRange : 1 ≤ counter ∧ counter ≤ maxCounter) :
    ofBigEndian (toBigEndian 2 counter.toNat) = counter.toNat := by
  have bound := counter_lt counterInRange
  rw [ofBigEndian_toBigEndian, Nat.mod_eq_of_lt (by omega)]

theorem counter_and_maxCounter {counter : Int}
    (counterInRange : 1 ≤ counter ∧ counter ≤ maxCounter) :
    ((counter.toNat &&& maxCounter.toNat : Nat) : Int) = counter := by
  have mask : maxCounter.toNat = 2 ^ 15 - 1 := rfl
  rw [mask, Nat.and_two_pow_sub_one_eq_mod, Nat.mod_eq_of_lt (counter_lt counterInRange)]
  omega

theorem counter_and_cryptoLayerFlag {counter : Int}
    (counterInRange : 1 ≤ counter ∧ counter ≤ maxCounter) :
    counter.toNat &&& cryptoLayerFlag = 0 := by
  have flag : cryptoLayerFlag = 2 ^ 15 := rfl
  apply Nat.eq_of_testBit_eq
  intro index
  rw [Nat.testBit_and, flag, Nat.testBit_two_pow, Nat.zero_testBit]
  by_cases isTop : 15 = index
  · rw [← isTop, Nat.testBit_lt_two_pow (counter_lt counterInRange), Bool.false_and]
  · simp [isTop]

private theorem messageId_fields : ∀ messageId < 16,
    (UInt8.ofNat messageId &&& 0x0F).toNat = messageId ∧
      (UInt8.ofNat messageId ||| presentationResponseFlag) &&& presentationResponseFlag ≠ 0 ∧
      (UInt8.ofNat messageId ||| presentationResponseFlag) &&& presentationReservedFlags = 0 ∧
      ((UInt8.ofNat messageId ||| presentationResponseFlag) &&& 0x0F).toNat = messageId := by
  decide

/-! ## Round trips -/

/-- The shade decrypts a request to what the central encoded. -/
theorem decryptAppRequest_encode {primitives : CryptoPrimitives} {command : ShadeCommand}
    {payload key nonce frame : Bytes} {counter messageId : Int}
    (encoded : encodeApplicationRequest primitives command.toInt payload key nonce counter
      messageId = .ok frame) :
    decryptAppRequest primitives frame key nonce =
      .ok ⟨counter, messageId, command, payload⟩ := by
  rcases encodeApplicationRequest_eq_ok encoded with
    ⟨_, _, counterInRange, idInRange, rfl⟩
  have idByte := (messageId_fields messageId.toNat (by omega)).1
  have commandByte : UInt8.ofNat command.toInt.toNat = command.value := by
    simp [ShadeCommand.toInt]
  have verified : verifyChecksum (toBigEndian 2 counter.toNat)
        (withChecksum (toBigEndian 2 counter.toNat)
          (UInt8.ofNat messageId.toNat :: command.value :: payload)) =
      .ok (UInt8.ofNat messageId.toNat :: command.value :: payload) :=
    verifyChecksum_eq_ok_iff.mpr ⟨List.cons_ne_nil _ _, rfl⟩
  unfold decryptAppRequest
  simp only [commandByte, List.take_left' (toBigEndian_length _ _),
    List.drop_left' (toBigEndian_length _ _), aesCtr_aesCtr, verified,
    ofBigEndian_counter counterInRange, counter_and_maxCounter counterInRange,
    List.cons_append, List.nil_append, ShadeCommand.ofValue?_value, idByte,
    Int.toNat_of_nonneg idInRange.1]

/-- The central decrypts a response and checks its counter before anything in
its presentation. -/
theorem decodeApplicationResponse_encode {primitives : CryptoPrimitives} {command : UInt8}
    {payload key nonce : Bytes} {counter messageId expectedMessageId expectedCounter : Int}
    {expectedCommand : ShadeCommand}
    (keyLength : key.length = 32) (nonceLength : nonce.length = 12)
    (expectedAllowed : expectedCommand ∈ runtimeCommands)
    (counterInRange : 1 ≤ counter ∧ counter ≤ maxCounter) :
    decodeApplicationResponse primitives
        (encodeAppResponse primitives command payload key nonce counter messageId) key nonce
        expectedCommand expectedMessageId (some expectedCounter) =
      if expectedCounter = counter then
        decodePresentation
          ([UInt8.ofNat messageId.toNat ||| presentationResponseFlag, command] ++ payload)
          expectedCommand expectedMessageId counter
      else
        .error (.tiltProtocolError
          "Application response counter does not match request.") := by
  have verified : verifyChecksum (toBigEndian 2 counter.toNat)
        (withChecksum (toBigEndian 2 counter.toNat)
          ([UInt8.ofNat messageId.toNat ||| presentationResponseFlag, command] ++ payload)) =
      .ok ([UInt8.ofNat messageId.toNat ||| presentationResponseFlag, command] ++ payload) :=
    verifyChecksum_eq_ok_iff.mpr ⟨List.cons_ne_nil _ _, rfl⟩
  have long : ¬(encodeAppResponse primitives command payload key nonce counter
      messageId).length < 6 := by
    simp only [encodeAppResponse, withChecksum, List.length_append, toBigEndian_length,
      aesCtr_length, toLittleEndian_length, List.length_cons, List.length_nil]
    omega
  have header : (encodeAppResponse primitives command payload key nonce counter
      messageId).take 2 = toBigEndian 2 counter.toNat := rfl
  have body : (encodeAppResponse primitives command payload key nonce counter
      messageId).drop 2 =
    aesCtr primitives
      (withChecksum (toBigEndian 2 counter.toNat)
        ([UInt8.ofNat messageId.toNat ||| presentationResponseFlag, command] ++ payload)) key
      (responseBlock nonce (toBigEndian 2 counter.toNat)) := rfl
  unfold decodeApplicationResponse requireKeyAndNonce
  simp only [keyLength, nonceLength, expectedAllowed, long, header, body, aesCtr_aesCtr,
    verified, ofBigEndian_counter counterInRange, counter_and_cryptoLayerFlag counterInRange,
    counter_and_maxCounter counterInRange, counterHeader, counterInRange, ne_eq,
    not_true_eq_false, reduceIte, and_self, Option.isSome_some, Option.some.injEq, true_and,
    ite_not]

theorem decodePresentation_response {expectedCommand : ShadeCommand} {payload : Bytes}
    {counter messageId : Int} (notAck : expectedCommand ≠ .ack)
    (idInRange : 0 ≤ messageId ∧ messageId ≤ 0x0F) :
    decodePresentation
        ([UInt8.ofNat messageId.toNat ||| presentationResponseFlag, expectedCommand.value] ++
          payload) expectedCommand messageId counter =
      .ok ⟨expectedCommand, messageId, counter, payload⟩ := by
  have fields := messageId_fields messageId.toNat (by omega)
  simp only [decodePresentation, List.cons_append, List.nil_append, fields, reduceIte,
    ShadeCommand.ofValue?_value, notAck, false_and, ne_eq, not_true_eq_false, and_false,
    Int.toNat_of_nonneg idInRange.1]

theorem decodePresentation_eq_ok {flags commandByte : UInt8} {payload : Bytes}
    {expectedCommand : ShadeCommand} {expectedMessageId counter : Int}
    {response : ApplicationResponse}
    (accepted : decodePresentation (flags :: commandByte :: payload) expectedCommand
      expectedMessageId counter = .ok response) :
    response.command.value = commandByte ∧ response.payload = payload := by
  simp only [decodePresentation] at accepted
  split at accepted
  · cases accepted
  · split at accepted
    · cases accepted
    · split at accepted
      · cases accepted
      · split at accepted
        · cases accepted
        · next command found =>
            split at accepted
            · cases accepted
            · split at accepted
              · cases accepted
              · cases accepted
                exact ⟨ShadeCommand.ofValue?_eq_some found, rfl⟩

theorem parseStatus_statusPayload (status : ShadeStatus) (counter messageId : Int) :
    parseStatus ⟨.getStatus, messageId, counter, statusPayload status⟩ = .ok status := by
  rcases status with ⟨rawPosition, batteryPercent, chargeStatus, calibrated, rawBound,
    batteryBound⟩
  have raw : ofLittleEndian (toLittleEndian 2 rawPosition) = rawPosition := by
    rw [ofLittleEndian_toLittleEndian, Nat.mod_eq_of_lt (by omega)]
  have battery : (UInt8.ofNat batteryPercent).toNat = batteryPercent := by
    simp only [UInt8.toNat_ofNat']
    omega
  have payloadLength : (statusPayload ⟨rawPosition, batteryPercent, chargeStatus, calibrated,
      rawBound, batteryBound⟩).length = 5 := by
    simp [statusPayload]
  have position : parseRawPosition ⟨.getStatus, messageId, counter, statusPayload
      ⟨rawPosition, batteryPercent, chargeStatus, calibrated, rawBound, batteryBound⟩⟩ =
      .ok ⟨rawPosition, rawBound⟩ := by
    have front : (statusPayload ⟨rawPosition, batteryPercent, chargeStatus, calibrated,
        rawBound, batteryBound⟩).take 2 = toLittleEndian 2 rawPosition := rfl
    simp [parseRawPosition, payloadLength, front, raw, rawBound]
  have batteryByte : (statusPayload ⟨rawPosition, batteryPercent, chargeStatus, calibrated,
      rawBound, batteryBound⟩).getD 2 0 = UInt8.ofNat batteryPercent := rfl
  have chargeByte : (statusPayload ⟨rawPosition, batteryPercent, chargeStatus, calibrated,
      rawBound, batteryBound⟩).getD 3 0 = chargeStatus := rfl
  have calibratedByte : (statusPayload ⟨rawPosition, batteryPercent, chargeStatus, calibrated,
      rawBound, batteryBound⟩).getD 4 0 = if calibrated then 1 else 0 := rfl
  unfold parseStatus requireResponseCommand
  simp only [payloadLength, position, batteryByte, chargeByte, calibratedByte, battery,
    batteryBound, ne_eq, not_true_eq_false, reduceIte, dite_true]
  cases calibrated <;> simp

/-! ## Sample values -/

/-- A cipher with the all-zero keystream and a constant digest. -/
def CryptoPrimitives.constant : CryptoPrimitives where
  aesEncryptBlock _ _ := List.replicate 16 0
  hmacSha256 _ _ := List.replicate 32 0
  hmacSha256_length _ _ := List.length_replicate

def PairingKey.zero : PairingKey := ⟨List.replicate 32 0, List.length_replicate⟩

def zeroNonce : Bytes := List.replicate 12 0

end SmartblindsBle
