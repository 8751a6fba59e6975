import SmartblindsBle.Tilt.ShadeSide

/-! # What the response decoder accepts

A frame is accepted exactly when it is the shade's encoding of a response that
answers the request, where the top bit of the flags byte is not looked at.
-/

namespace SmartblindsBle

open Foundation

/-! ## Expected responses -/

namespace ApplicationResponse

/-- The response is for a command: its own response, or an acknowledgement that
names the command. -/
def IsFor (response : ApplicationResponse) (command : ShadeCommand) : Prop :=
  response.command = command ∨
    (response.command = .ack ∧ response.payload.head? = some command.value)

/-- The response is one that the caller of the decoder asks for. -/
structure Answers (response : ApplicationResponse) (expectedCommand : ShadeCommand)
    (expectedMessageId : Int) (expectedCounter : Option Int) : Prop where
  counter_pos : 1 ≤ response.counter
  counter_le : response.counter ≤ maxCounter
  counter : ∀ counter, expectedCounter = some counter → response.counter = counter
  messageId : response.messageId = expectedMessageId
  command : response.IsFor expectedCommand

/-- The flags byte of a response; `marked` is its top bit. -/
def flags (marked : Bool) (messageId : Int) : UInt8 :=
  UInt8.ofNat messageId.toNat ||| presentationResponseFlag ||| if marked then 0x80 else 0

/-- The response as a shade encrypts it, with the given top bit of the flags
byte. -/
def encodeMarked (primitives : CryptoPrimitives) (key nonce : Bytes) (marked : Bool)
    (response : ApplicationResponse) : Bytes :=
  let header := toBigEndian 2 response.counter.toNat
  header ++ aesCtr primitives
    (withChecksum header
      ([flags marked response.messageId, response.command.value] ++ response.payload)) key
    (responseBlock nonce header)

/-- The shade-side encoding of a response. -/
def encode (primitives : CryptoPrimitives) (key nonce : Bytes)
    (response : ApplicationResponse) : Bytes :=
  encodeAppResponse primitives response.command.value response.payload key nonce
    response.counter response.messageId

theorem encodeMarked_false (primitives : CryptoPrimitives) (key nonce : Bytes)
    (response : ApplicationResponse) :
    response.encodeMarked primitives key nonce false = response.encode primitives key nonce := by
  simp [encodeMarked, encode, encodeAppResponse, flags]

end ApplicationResponse

open ApplicationResponse (flags)

theorem ne_ack_of_runtime {command : ShadeCommand} (allowed : command ∈ runtimeCommands) :
    command ≠ .ack := by
  rintro rfl
  revert allowed
  decide

/-! ## The flags byte -/

private theorem flags_split : ∀ value < 256,
    UInt8.ofNat value &&& presentationResponseFlag ≠ 0 →
    UInt8.ofNat value &&& presentationReservedFlags = 0 →
      ∃ marked, UInt8.ofNat value =
        flags marked (UInt8.ofNat value &&& 0x0F).toNat := by
  decide +kernel

private theorem flags_fields : ∀ messageId < 16, ∀ marked,
    flags marked (messageId : Nat) &&& presentationResponseFlag ≠ 0 ∧
      flags marked (messageId : Nat) &&& presentationReservedFlags = 0 ∧
      (flags marked (messageId : Nat) &&& 0x0F).toNat = messageId := by
  decide

private theorem flags_marked_ne : ∀ messageId < 16,
    flags true (messageId : Nat) ≠ flags false (messageId : Nat) := by
  decide

/-! ## The decoder -/

/-- A presentation is accepted when it is the flags byte, the command and the
payload of a response for the command. -/
theorem decodePresentation_eq_ok_iff {presentation : Bytes} {expectedCommand : ShadeCommand}
    {expectedMessageId counter : Int} {response : ApplicationResponse}
    (notAck : expectedCommand ≠ .ack)
    (idInRange : 0 ≤ expectedMessageId ∧ expectedMessageId ≤ 0x0F) :
    decodePresentation presentation expectedCommand expectedMessageId counter = .ok response ↔
      response.counter = counter ∧ response.messageId = expectedMessageId ∧
        response.IsFor expectedCommand ∧
        ∃ marked, presentation =
          [flags marked response.messageId, response.command.value] ++ response.payload := by
  constructor
  · intro accepted
    match presentation with
    | [] => cases accepted
    | [_] => cases accepted
    | flagsByte :: commandByte :: payload =>
        simp only [decodePresentation] at accepted
        split at accepted
        · cases accepted
        · next isResponse =>
            split at accepted
            · cases accepted
            · next unreserved =>
                split at accepted
                · cases accepted
                · next sameId =>
                    split at accepted
                    · cases accepted
                    · next command found =>
                        split at accepted
                        · cases accepted
                        · next acknowledges =>
                            split at accepted
                            · cases accepted
                            · next responds =>
                                cases accepted
                                rcases flags_split flagsByte.toNat flagsByte.toNat_lt
                                  (by simpa using isResponse) (by simpa using unreserved) with
                                  ⟨marked, split⟩
                                rw [UInt8.ofNat_toNat] at split
                                refine ⟨rfl, not_not.mp sameId, ?_, marked, ?_⟩
                                · by_cases isAck : command = .ack
                                  · have names : payload.head? = some expectedCommand.value := by
                                      simpa [isAck] using acknowledges
                                    exact .inr ⟨isAck, names⟩
                                  · have same : command = expectedCommand := by
                                      simpa [isAck] using responds
                                    exact .inl same
                                · rw [← split, ShadeCommand.ofValue?_eq_some found]
                                  rfl
  · rintro ⟨rfl, sameId, isFor, marked, rfl⟩
    have fields := flags_fields expectedMessageId.toNat (by omega) marked
    rw [Int.toNat_of_nonneg idInRange.1] at fields
    have answers : ¬(response.command = .ack ∧
          response.payload.head? ≠ some expectedCommand.value) ∧
        ¬(response.command ≠ .ack ∧ response.command ≠ expectedCommand) := by
      rcases isFor with same | ⟨isAck, names⟩
      · simp [same, notAck]
      · simp [isAck, names]
    simp only [decodePresentation, List.cons_append, List.nil_append, sameId, fields, answers,
      reduceIte, ShadeCommand.ofValue?_value, ne_eq, not_true_eq_false,
      Int.toNat_of_nonneg idInRange.1]
    rw [← sameId]

theorem counter_of_header {header : Bytes} (twoBytes : header.length = 2)
    (encrypted : ofBigEndian header &&& cryptoLayerFlag = 0) :
    ofBigEndian header &&& maxCounter.toNat = ofBigEndian header ∧
      header = toBigEndian 2 (ofBigEndian header) := by
  have bytes := toBigEndian_ofBigEndian header
  rw [twoBytes] at bytes
  have bound := ofLittleEndian_lt header.reverse
  rw [List.length_reverse, twoBytes] at bound
  have mask : maxCounter.toNat = 2 ^ 15 - 1 := rfl
  have flag : cryptoLayerFlag = 2 ^ 15 := rfl
  have topBit : (ofBigEndian header).testBit 15 = false := by
    have isZero := congrArg (Nat.testBit · 15) encrypted
    simp only [Nat.testBit_and, flag, Nat.testBit_two_pow_self, Bool.and_true,
      Nat.zero_testBit] at isZero
    exact isZero
  have small : ofBigEndian header < 2 ^ 15 := by
    rw [Nat.testBit_eq_decide_div_mod_eq, decide_eq_false_iff_not] at topBit
    unfold ofBigEndian at topBit ⊢
    omega
  rw [mask, Nat.and_two_pow_sub_one_eq_mod, Nat.mod_eq_of_lt small]
  exact ⟨rfl, bytes.symm⟩

section Decoder

variable {primitives : CryptoPrimitives} {key nonce : Bytes} {expectedCommand : ShadeCommand}
variable {expectedMessageId : Int} {expectedCounter : Option Int}

/-- An accepted frame is the encoding of the response that it is decoded to. -/
theorem decodeApplicationResponse_encoded {frame : Bytes} {response : ApplicationResponse}
    (notAck : expectedCommand ≠ .ack)
    (idInRange : 0 ≤ expectedMessageId ∧ expectedMessageId ≤ 0x0F)
    (accepted : decodeApplicationResponse primitives frame key nonce expectedCommand
      expectedMessageId expectedCounter = .ok response) :
    response.Answers expectedCommand expectedMessageId expectedCounter ∧
      ∃ marked, frame = response.encodeMarked primitives key nonce marked := by
  unfold decodeApplicationResponse at accepted
  split at accepted
  · cases accepted
  · split at accepted
    · cases accepted
    · split at accepted
      · cases accepted
      · next long =>
          simp only at accepted
          split at accepted
          · cases accepted
          · next encrypted =>
              have twoBytes : (frame.take 2).length = 2 := by
                rw [List.length_take]
                omega
              rcases counter_of_header twoBytes (not_not.mp encrypted) with
                ⟨isCounter, isHeader⟩
              rw [isCounter] at accepted
              split at accepted
              · cases accepted
              · next checked =>
                  have counterInRange : 1 ≤ (ofBigEndian (frame.take 2) : Int) ∧
                      (ofBigEndian (frame.take 2) : Int) ≤ maxCounter := by
                    unfold counterHeader at checked
                    split at checked
                    · next inRange => exact inRange
                    · cases checked
                  split at accepted
                  · cases accepted
                  · next expected =>
                      split at accepted
                      · cases accepted
                      · next presentation verified =>
                          have framed := (verifyChecksum_eq_ok_iff.mp verified).2
                          rcases (decodePresentation_eq_ok_iff notAck idInRange).mp accepted with
                            ⟨sameCounter, sameId, isFor, marked, rfl⟩
                          refine ⟨⟨sameCounter ▸ counterInRange.1, sameCounter ▸ counterInRange.2,
                            ?_, sameId, isFor⟩, marked, ?_⟩
                          · intro counter isExpected
                            rw [isExpected] at expected
                            rw [sameCounter]
                            exact (Option.some.inj (by simpa using expected)).symm
                          · have header : toBigEndian 2 response.counter.toNat =
                                frame.take 2 := by
                              rw [sameCounter, Int.toNat_natCast, ← isHeader]
                            unfold ApplicationResponse.encodeMarked
                            simp only [header, withChecksum]
                            rw [← framed, aesCtr_aesCtr, List.take_append_drop]

/-- The encoding of an expected response is accepted, with either top bit. -/
theorem decodeApplicationResponse_encodeMarked {response : ApplicationResponse}
    (keyLength : key.length = 32) (nonceLength : nonce.length = 12)
    (allowed : expectedCommand ∈ runtimeCommands)
    (idInRange : 0 ≤ expectedMessageId ∧ expectedMessageId ≤ 0x0F)
    (answers : response.Answers expectedCommand expectedMessageId expectedCounter)
    (marked : Bool) :
    decodeApplicationResponse primitives (response.encodeMarked primitives key nonce marked)
      key nonce expectedCommand expectedMessageId expectedCounter = .ok response := by
  have notAck := ne_ack_of_runtime allowed
  have counterInRange := And.intro answers.counter_pos answers.counter_le
  have accepted : decodePresentation
        ([flags marked response.messageId, response.command.value] ++ response.payload)
        expectedCommand expectedMessageId response.counter = .ok response :=
    (decodePresentation_eq_ok_iff notAck idInRange).mpr
      ⟨rfl, answers.messageId, answers.command, marked, rfl⟩
  have verified : verifyChecksum (toBigEndian 2 response.counter.toNat)
        (withChecksum (toBigEndian 2 response.counter.toNat)
          ([flags marked response.messageId, response.command.value] ++ response.payload)) =
      .ok ([flags marked response.messageId, response.command.value] ++ response.payload) :=
    verifyChecksum_eq_ok_iff.mpr ⟨List.cons_ne_nil _ _, rfl⟩
  have long : ¬(response.encodeMarked primitives key nonce marked).length < 6 := by
    simp only [ApplicationResponse.encodeMarked, withChecksum, List.length_append,
      toBigEndian_length, aesCtr_length, toLittleEndian_length, List.length_cons,
      List.length_nil]
    omega
  have header : (response.encodeMarked primitives key nonce marked).take 2 =
      toBigEndian 2 response.counter.toNat := rfl
  have body : (response.encodeMarked primitives key nonce marked).drop 2 =
      aesCtr primitives
        (withChecksum (toBigEndian 2 response.counter.toNat)
          ([flags marked response.messageId, response.command.value] ++ response.payload)) key
        (responseBlock nonce (toBigEndian 2 response.counter.toNat)) := rfl
  have expected : ¬(expectedCounter.isSome = true ∧ expectedCounter ≠ some response.counter) := by
    rintro ⟨given, differs⟩
    rcases Option.isSome_iff_exists.mp given with ⟨counter, isExpected⟩
    exact differs (isExpected.trans (congrArg some (answers.counter counter isExpected).symm))
  unfold decodeApplicationResponse requireKeyAndNonce
  simp only [keyLength, nonceLength, allowed, long, header, body, aesCtr_aesCtr, verified,
    ofBigEndian_counter counterInRange, counter_and_cryptoLayerFlag counterInRange,
    counter_and_maxCounter counterInRange, counterHeader, counterInRange, expected, accepted,
    ne_eq, not_true_eq_false, reduceIte, and_self]

/-! ## Exactness -/

/-- The decoder accepts a frame as a response exactly when the frame is the
shade's encoding of that response, and it is one that the caller asks for. -/
def AcceptsExactly (primitives : CryptoPrimitives) (key nonce : Bytes)
    (expectedCommand : ShadeCommand) (expectedMessageId : Int) (expectedCounter : Option Int)
    (frame : Bytes) : Prop :=
  (∀ response,
    decodeApplicationResponse primitives frame key nonce expectedCommand expectedMessageId
        expectedCounter = .ok response ↔
      frame = response.encode primitives key nonce ∧
        response.Answers expectedCommand expectedMessageId expectedCounter) ∧
  RaisesProtocolErrors
    (decodeApplicationResponse primitives frame key nonce expectedCommand expectedMessageId
      expectedCounter)

/-- The frame is an expected response whose flags byte has its top bit set. -/
def CarriesMark (primitives : CryptoPrimitives) (key nonce : Bytes)
    (expectedCommand : ShadeCommand) (expectedMessageId : Int) (expectedCounter : Option Int)
    (frame : Bytes) : Prop :=
  ∃ response : ApplicationResponse,
    response.Answers expectedCommand expectedMessageId expectedCounter ∧
      frame = response.encodeMarked primitives key nonce true

theorem ApplicationResponse.encodeMarked_injective {response : ApplicationResponse}
    (idInRange : 0 ≤ response.messageId ∧ response.messageId ≤ 0x0F) {first second : Bool}
    (same : response.encodeMarked primitives key nonce first =
      response.encodeMarked primitives key nonce second) : first = second := by
  have ciphertexts := List.append_cancel_left same
  have plaintexts := congrArg (aesCtr primitives · key
    (responseBlock nonce (toBigEndian 2 response.counter.toNat))) ciphertexts
  simp only [aesCtr_aesCtr, withChecksum, List.cons_append, List.cons.injEq] at plaintexts
  have differ := flags_marked_ne response.messageId.toNat (by omega)
  rw [Int.toNat_of_nonneg idInRange.1] at differ
  cases first <;> cases second
  · rfl
  · exact absurd plaintexts.1.symm differ
  · exact absurd plaintexts.1 differ
  · rfl

/-- The decoder is exact on every frame but the expected responses with the top
bit of the flags byte set, which it accepts too. Two frames that decode to the
same response differ in that bit alone. -/
theorem decodeApplicationResponse_exact_iff
    (keyLength : key.length = 32) (nonceLength : nonce.length = 12)
    (allowed : expectedCommand ∈ runtimeCommands)
    (idInRange : 0 ≤ expectedMessageId ∧ expectedMessageId ≤ 0x0F) :
    (∀ frame,
      AcceptsExactly primitives key nonce expectedCommand expectedMessageId expectedCounter
          frame ↔
        ¬CarriesMark primitives key nonce expectedCommand expectedMessageId expectedCounter
          frame) ∧
      ∀ frame other response,
        decodeApplicationResponse primitives frame key nonce expectedCommand expectedMessageId
          expectedCounter = .ok response →
        decodeApplicationResponse primitives other key nonce expectedCommand expectedMessageId
          expectedCounter = .ok response →
        (frame = other ↔
          (CarriesMark primitives key nonce expectedCommand expectedMessageId expectedCounter
              frame ↔
            CarriesMark primitives key nonce expectedCommand expectedMessageId expectedCounter
              other)) := by
  have notAck := ne_ack_of_runtime allowed
  have accepts := fun response answers marked =>
    @decodeApplicationResponse_encodeMarked primitives key nonce expectedCommand
      expectedMessageId expectedCounter response keyLength nonceLength allowed idInRange answers
      marked
  -- the mark of an accepted frame is the one it was encoded with
  have carries : ∀ (response : ApplicationResponse) marked,
      response.Answers expectedCommand expectedMessageId expectedCounter →
      (CarriesMark primitives key nonce expectedCommand expectedMessageId expectedCounter
        (response.encodeMarked primitives key nonce marked) ↔ marked = true) := by
    intro response marked answers
    constructor
    · rintro ⟨other, otherAnswers, same⟩
      have decoded := accepts response answers marked
      rw [same, accepts other otherAnswers true] at decoded
      cases decoded
      exact ApplicationResponse.encodeMarked_injective (answers.messageId ▸ idInRange) same
    · rintro rfl
      exact ⟨response, answers, rfl⟩
  constructor
  · intro frame
    constructor
    · rintro exactly ⟨response, answers, rfl⟩
      have encoded := ((exactly.1 response).mp (accepts response answers true)).1
      rw [← ApplicationResponse.encodeMarked_false] at encoded
      have impossible := ApplicationResponse.encodeMarked_injective
        (answers.messageId ▸ idInRange) encoded
      cases impossible
    · intro unmarked
      refine ⟨?_, decodeApplicationResponse_errors _ _ _ _ _ _ _⟩
      intro response
      constructor
      · intro accepted
        rcases decodeApplicationResponse_encoded notAck idInRange accepted with
          ⟨answers, marked, rfl⟩
        have isUnmarked : marked = false := by
          simpa [carries response marked answers] using unmarked
        rw [isUnmarked, ApplicationResponse.encodeMarked_false]
        exact ⟨rfl, answers⟩
      · rintro ⟨rfl, answers⟩
        rw [← ApplicationResponse.encodeMarked_false]
        exact accepts response answers false
  · intro frame other response accepted acceptedOther
    rcases decodeApplicationResponse_encoded notAck idInRange accepted with
      ⟨answers, marked, rfl⟩
    rcases decodeApplicationResponse_encoded notAck idInRange acceptedOther with
      ⟨_, otherMarked, rfl⟩
    rw [carries response marked answers, carries response otherMarked answers]
    constructor
    · intro same
      rw [ApplicationResponse.encodeMarked_injective (answers.messageId ▸ idInRange) same]
    · intro sameMark
      rw [Bool.eq_iff_iff.mpr sameMark]

end Decoder

/-- A status response under counter 7 and message id 3. -/
def ApplicationResponse.closedStatus : ApplicationResponse :=
  ⟨.getStatus, 3, 7, [0, 0, 100, 0, 1]⟩

theorem ApplicationResponse.closedStatus_answers :
    closedStatus.Answers .getStatus 3 (some 7) where
  counter_pos := by decide
  counter_le := by decide
  counter := by simp [closedStatus]
  messageId := rfl
  command := .inl rfl

theorem decodeApplicationResponse_exact_iff_status :
    PairingKey.zero.bytes.length = 32 ∧ zeroNonce.length = 12 ∧
      (AcceptsExactly .constant PairingKey.zero.bytes zeroNonce .getStatus 3 (some 7)
          (ApplicationResponse.closedStatus.encode .constant PairingKey.zero.bytes zeroNonce) ↔
        ¬CarriesMark .constant PairingKey.zero.bytes zeroNonce .getStatus 3 (some 7)
          (ApplicationResponse.closedStatus.encode .constant PairingKey.zero.bytes zeroNonce)) :=
  ⟨rfl, rfl, (decodeApplicationResponse_exact_iff rfl rfl (by decide) (by decide)).1 _⟩

/-- The flags byte `0xC3` is read as message id 3, like `0x43`. -/
theorem decodeApplicationResponse_accepts_marked :
    ¬∀ frame, AcceptsExactly .constant PairingKey.zero.bytes zeroNonce .getStatus 3 (some 7)
      frame := by
  intro exactly
  have accepted := @decodeApplicationResponse_encodeMarked .constant PairingKey.zero.bytes
    zeroNonce .getStatus 3 (some 7) _ rfl rfl (by decide) (by decide)
    ApplicationResponse.closedStatus_answers true
  have encoded := ((exactly _).1 _).mp accepted
  have differ : ApplicationResponse.closedStatus.encodeMarked .constant PairingKey.zero.bytes
      zeroNonce true ≠
      ApplicationResponse.closedStatus.encode .constant PairingKey.zero.bytes zeroNonce := by
    decide +kernel
  exact differ encoded.1

end SmartblindsBle
