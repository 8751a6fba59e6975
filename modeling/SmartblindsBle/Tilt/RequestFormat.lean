import SmartblindsBle.Tilt.LayerSeparation

/-! # What the request encoders produce

An encoder raises a `TiltProtocolError` or returns a frame that the shade
decrypts to the request it was asked for; no arguments lead to a command outside
the allowlist.
-/

namespace SmartblindsBle

open Foundation

/-- The arguments that every application request shares are in their ranges. -/
structure ValidRequestIds (key nonce : Bytes) (counter messageId : Int) : Prop where
  key_length : key.length = 32
  nonce_length : nonce.length = 12
  counter : 1 ≤ counter ∧ counter ≤ maxCounter
  messageId : 0 ≤ messageId ∧ messageId ≤ 0x0F

/-- The flags byte that the shade decrypts. -/
def requestFlags (primitives : CryptoPrimitives) (frame key nonce : Bytes) : UInt8 :=
  (aesCtr primitives (frame.drop 2) key (requestBlock nonce (frame.take 2))).getD 0 0

/-- The shade decrypts the frame to the request, whose header has its top bit
clear and whose flags byte has the response flag clear. -/
structure CarriesRequest (primitives : CryptoPrimitives) (key nonce frame : Bytes)
    (request : AppRequest) : Prop where
  decrypted : decryptAppRequest primitives frame key nonce = .ok request
  header : ofBigEndian (frame.take 2) &&& cryptoLayerFlag = 0
  flags : requestFlags primitives frame key nonce &&& presentationResponseFlag = 0

/-- An encoder raises only protocol errors, succeeds exactly on valid arguments,
and returns faithful frames. -/
structure EncodesExactly (encoded : Raises Bytes) (valid : Prop) (faithful : Bytes → Prop) :
    Prop where
  errors : RaisesProtocolErrors encoded
  succeeds : (∃ frame, encoded = .ok frame) ↔ valid
  frames : ∀ frame, encoded = .ok frame → faithful frame

/-! ## The common encoder -/

section Encoder

variable {primitives : CryptoPrimitives} {key nonce payload frame : Bytes}
variable {counter messageId : Int}

theorem encodeApplicationRequest_isOk_iff {command : Int} :
    (∃ frame, encodeApplicationRequest primitives command payload key nonce counter messageId =
        .ok frame) ↔
      command ∈ runtimeCommands.map ShadeCommand.toInt ∧
        ValidRequestIds key nonce counter messageId := by
  constructor
  · rintro ⟨frame, encoded⟩
    rcases encodeApplicationRequest_eq_ok encoded with
      ⟨allowed, nonceLength, counterInRange, idInRange, _⟩
    refine ⟨allowed, ?_, nonceLength, counterInRange, idInRange⟩
    by_contra keyLength
    simp [encodeApplicationRequest, requireKeyAndNonce, allowed, keyLength] at encoded
  · rintro ⟨allowed, valid⟩
    simp [encodeApplicationRequest, requireKeyAndNonce, counterHeader, messageIdByte, allowed,
      valid.key_length, valid.nonce_length, valid.counter, valid.messageId]

private theorem messageId_noResponseFlag : ∀ messageId < 16,
    UInt8.ofNat messageId &&& presentationResponseFlag = 0 := by
  decide

theorem encodeApplicationRequest_carries {command : ShadeCommand}
    (encoded : encodeApplicationRequest primitives command.toInt payload key nonce counter
      messageId = .ok frame) :
    CarriesRequest primitives key nonce frame ⟨counter, messageId, command, payload⟩ := by
  refine ⟨decryptAppRequest_encode encoded, ?_, ?_⟩
  · rcases encodeApplicationRequest_eq_ok encoded with ⟨_, _, counterInRange, _, rfl⟩
    rw [List.take_left' (toBigEndian_length _ _), ofBigEndian_counter counterInRange]
    exact counter_and_cryptoLayerFlag counterInRange
  · rcases encodeApplicationRequest_eq_ok encoded with ⟨_, _, _, idInRange, rfl⟩
    unfold requestFlags
    rw [List.drop_left' (toBigEndian_length _ _), List.take_left' (toBigEndian_length _ _),
      aesCtr_aesCtr]
    exact messageId_noResponseFlag messageId.toNat (by omega)

end Encoder

/-! ## Read requests -/

theorem mem_map_toInt {commands : List ShadeCommand} {value : Int} :
    value ∈ commands.map ShadeCommand.toInt ↔ ∃ command ∈ commands, command.toInt = value :=
  List.mem_map

/-- `encode_read_request` succeeds exactly on its ranges, and its frames carry
read commands without a payload. -/
theorem encodeReadRequest_exact (primitives : CryptoPrimitives) (command : Int)
    (key nonce : Bytes) (counter messageId : Int) :
    EncodesExactly (encodeReadRequest primitives command key nonce counter messageId)
      (command ∈ readCommands.map ShadeCommand.toInt ∧
        ValidRequestIds key nonce counter messageId)
      (fun frame => ∃ shadeCommand ∈ readCommands, shadeCommand.toInt = command ∧
        CarriesRequest primitives key nonce frame ⟨counter, messageId, shadeCommand, []⟩) := by
  have isRead : ∀ frame,
      encodeReadRequest primitives command key nonce counter messageId = .ok frame →
        command ∈ readCommands.map ShadeCommand.toInt := by
    intro frame encoded
    unfold encodeReadRequest at encoded
    split at encoded
    · cases encoded
    · next allowed => exact not_not.mp allowed
  refine ⟨malformed_errors (encodeReadRequest_raises _ _ _ _ _ _), ⟨?_, ?_⟩, ?_⟩
  · rintro ⟨frame, encoded⟩
    have inner := encodeReadRequest_eq_ok encoded
    exact ⟨isRead frame encoded, (encodeApplicationRequest_isOk_iff.mp ⟨frame, inner⟩).2⟩
  · rintro ⟨allowed, valid⟩
    have runtime : command ∈ runtimeCommands.map ShadeCommand.toInt := by
      rw [runtimeCommands, List.map_append]
      exact List.mem_append_left _ allowed
    rw [encodeReadRequest, if_neg (not_not.mpr allowed)]
    exact encodeApplicationRequest_isOk_iff.mpr ⟨runtime, valid⟩
  · intro frame encoded
    rcases mem_map_toInt.mp (isRead frame encoded) with ⟨shadeCommand, isReadCommand, rfl⟩
    exact ⟨shadeCommand, isReadCommand, rfl,
      encodeApplicationRequest_carries (encodeReadRequest_eq_ok encoded)⟩

/-! ## Position requests -/

/-- The percentages that `encode_position_request` accepts. -/
def ValidPosition (positionPercent speed : PythonValue) (percent speedPercent : Int) : Prop :=
  (positionPercent = .int percent ∧ 0 ≤ percent ∧ percent ≤ 100) ∧
    (speed = .int speedPercent ∧ 1 ≤ speedPercent ∧ speedPercent ≤ 100)

/-- `encode_position_request` succeeds exactly on its ranges, and its frames
carry ten times the percentage and the speed. -/
theorem encodePositionRequest_exact (primitives : CryptoPrimitives)
    (positionPercent speed : PythonValue) (key nonce : Bytes) (counter messageId : Int) :
    EncodesExactly
      (encodePositionRequest primitives positionPercent key nonce counter messageId speed)
      ((∃ percent speedPercent, ValidPosition positionPercent speed percent speedPercent) ∧
        ValidRequestIds key nonce counter messageId)
      (fun frame => ∃ percent speedPercent,
        ValidPosition positionPercent speed percent speedPercent ∧
          CarriesRequest primitives key nonce frame
            ⟨counter, messageId, .setPosition,
              toLittleEndian 2 (10 * percent).toNat ++ [UInt8.ofNat speedPercent.toNat]⟩) := by
  refine ⟨malformed_errors (encodePositionRequest_raises _ _ _ _ _ _ _), ⟨?_, ?_⟩, ?_⟩
  · rintro ⟨frame, encoded⟩
    rcases encodePositionRequest_eq_ok encoded with
      ⟨percent, speedPercent, isPercent, isSpeed, inRange, speedInRange, inner⟩
    exact ⟨⟨percent, speedPercent, ⟨isPercent, inRange⟩, isSpeed, speedInRange⟩,
      (encodeApplicationRequest_isOk_iff.mp ⟨frame, inner⟩).2⟩
  · rintro ⟨⟨percent, speedPercent, ⟨rfl, inRange⟩, rfl, speedInRange⟩, valid⟩
    simp only [encodePositionRequest, inRange, speedInRange, and_self, not_true_eq_false,
      reduceIte]
    exact encodeApplicationRequest_isOk_iff.mpr ⟨by decide, valid⟩
  · intro frame encoded
    rcases encodePositionRequest_eq_ok encoded with
      ⟨percent, speedPercent, isPercent, isSpeed, inRange, speedInRange, inner⟩
    refine ⟨percent, speedPercent, ⟨⟨isPercent, inRange⟩, isSpeed, speedInRange⟩, ?_⟩
    rw [Int.mul_comm]
    exact encodeApplicationRequest_carries inner

/-! ## The allowlists -/

/-- Request encoding is faithful and confined to the allowlists: the two
application encoders are exact, every frame they return carries a runtime
command, and the encoders of the handshake layer make the version request, the
selection of 1 or 2, and the nonce request. -/
theorem requestEncoders_faithful_and_confined :
    (∀ primitives command key nonce counter messageId,
      EncodesExactly (encodeReadRequest primitives command key nonce counter messageId)
        (command ∈ readCommands.map ShadeCommand.toInt ∧
          ValidRequestIds key nonce counter messageId)
        (fun frame => ∃ shadeCommand ∈ readCommands, shadeCommand.toInt = command ∧
          CarriesRequest primitives key nonce frame ⟨counter, messageId, shadeCommand, []⟩)) ∧
      (∀ primitives positionPercent speed key nonce counter messageId,
        EncodesExactly
          (encodePositionRequest primitives positionPercent key nonce counter messageId speed)
          ((∃ percent speedPercent, ValidPosition positionPercent speed percent speedPercent) ∧
            ValidRequestIds key nonce counter messageId)
          (fun frame => ∃ percent speedPercent,
            ValidPosition positionPercent speed percent speedPercent ∧
              CarriesRequest primitives key nonce frame
                ⟨counter, messageId, .setPosition,
                  toLittleEndian 2 (10 * percent).toNat ++
                    [UInt8.ofNat speedPercent.toNat]⟩)) ∧
      (∀ shadeCommand, shadeCommand ∈ readCommands ∨ shadeCommand = .setPosition →
        shadeCommand ∈ runtimeCommands) ∧
      (∀ frame, encodeProtocolVersionsRequest = .ok frame →
        frame = cryptoFrame .requestProtocolVersions []) ∧
      (∀ version frame, encodeProtocolSelection version = .ok frame →
        frame = cryptoFrame .selectProtocolVersion [1] ∨
          frame = cryptoFrame .selectProtocolVersion [2]) ∧
      ∀ frame, encodeNonceRequest = .ok frame → frame = cryptoFrame .requestNonce [] := by
  refine ⟨encodeReadRequest_exact, encodePositionRequest_exact, ?_, ?_, ?_, ?_⟩
  · intro shadeCommand allowed
    cases shadeCommand <;> revert allowed <;> decide
  · intro frame encoded
    rw [encodeProtocolVersionsRequest_eq] at encoded
    cases encoded
    rfl
  · intro version frame encoded
    rcases encodeProtocolSelection_eq_ok_iff.mp encoded with ⟨rfl | rfl, rfl⟩
    · exact .inl rfl
    · exact .inr rfl
  · intro frame encoded
    rw [encodeNonceRequest_eq] at encoded
    cases encoded
    rfl

end SmartblindsBle
