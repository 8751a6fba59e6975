import SmartblindsBle.Tilt.CheckedCodec
import SmartblindsBle.Tilt.ResponseFormat

/-! # Typed responses

A name, a battery level, a position and a status each have a payload format. A frame
is read as a value exactly when it is the shade's encryption of such a payload.
-/

namespace SmartblindsBle

open Foundation

/-! ## Payloads -/

def utf8Bytes (text : String) : Bytes := text.toByteArray.data.toList

/-- The number of bytes, and the bytes of the name. -/
def namePayload (name : String) : Bytes :=
  UInt8.ofNat (utf8Bytes name).length :: utf8Bytes name

def batteryPayload (level charge : UInt8) : Bytes := [level, charge]

/-- A raw position, and whatever follows it. -/
def rawPositionPayload (rawPosition : RawPosition) (rest : Bytes) : Bytes :=
  toLittleEndian 2 rawPosition.val ++ rest

/-! ## The parsers -/

theorem decodeUtf8_eq_ok_iff {data : Bytes} {text : String} :
    Checked.decodeUtf8 data = .ok text ↔ data = utf8Bytes text := by
  unfold Checked.decodeUtf8 String.fromUTF8?
  constructor
  · intro decoded
    split at decoded
    · next found =>
        cases decoded
        split at found
        · cases found
          rfl
        · cases found
    · cases decoded
  · rintro rfl
    have isValid : ByteArray.IsValidUTF8 ⟨(utf8Bytes text).toArray⟩ := text.isValidUTF8
    rw [dif_pos isValid]
    rfl

theorem requireResponseCommand_bind_eq_ok_iff {Value : Type} {response : ApplicationResponse}
    {command : ShadeCommand} {next : Unit → Raises Value} {value : Value} :
    (requireResponseCommand response command).bind next = .ok value ↔
      response.command = command ∧ next () = .ok value := by
  unfold requireResponseCommand
  by_cases same : response.command = command
  · rw [if_neg (not_not.mpr same)]
    exact ⟨fun returned => ⟨same, returned⟩, fun both => both.2⟩
  · rw [if_pos same]
    exact ⟨nofun, fun both => absurd both.1 same⟩

theorem parseName_eq_ok_iff {response : ApplicationResponse} {name : String} :
    Checked.parseName response = .ok name ↔
      response.command = .getName ∧ (utf8Bytes name).length ≤ 255 ∧
        response.payload = namePayload name := by
  rw [Checked.parseName, requireResponseCommand_bind_eq_ok_iff]
  apply and_congr_right
  intro _
  cases response.payload with
  | nil => exact ⟨nofun, fun encoded => nomatch encoded.2⟩
  | cons length bytes =>
      have bound := length.toNat_lt
      rw [if_neg (List.cons_ne_nil length bytes)]
      have first : Checked.item (length :: bytes) 0 = .ok length := rfl
      rw [first, Checked.ok_bind, List.drop_succ_cons, List.drop_zero, List.length_cons]
      by_cases fits : bytes.length = length.toNat
      · have whole : bytes.take length.toNat = bytes := by
          rw [← fits, List.take_length]
        simp only [whole, fits, ne_eq, not_true_eq_false, or_self, reduceIte]
        constructor
        · intro returned
          cases decoded : Checked.decodeUtf8 bytes with
          | error error =>
              rw [decoded] at returned
              simp only at returned
              split at returned
              · cases returned
              · cases returned
          | ok text =>
              rw [decoded] at returned
              cases returned
              have isText := decodeUtf8_eq_ok_iff.mp decoded
              rw [← isText, namePayload, ← isText, fits, UInt8.ofNat_toNat]
              exact ⟨by omega, rfl⟩
        · rintro ⟨_, encoded⟩
          cases encoded
          rw [decodeUtf8_eq_ok_iff.mpr rfl]
      · have wrong : (bytes.take length.toNat).length ≠ length.toNat ∨
            bytes.length + 1 ≠ length.toNat + 1 := .inr (by omega)
        simp only [if_pos wrong]
        constructor
        · exact nofun
        · rintro ⟨short, encoded⟩
          cases encoded
          rw [UInt8.toNat_ofNat', Nat.mod_eq_of_lt (by omega)] at fits
          exact absurd rfl fits

theorem parseBattery_eq_ok_iff {response : ApplicationResponse} {level charge : UInt8} :
    Checked.parseBattery response = .ok (level, charge) ↔
      response.command = .getBattery ∧ level.toNat ≤ 100 ∧
        response.payload = batteryPayload level charge := by
  rw [Checked.parseBattery, requireResponseCommand_bind_eq_ok_iff]
  apply and_congr_right
  intro _
  match response.payload with
  | [] => exact ⟨nofun, fun encoded => nomatch encoded.2⟩
  | [_] => exact ⟨nofun, fun encoded => nomatch encoded.2⟩
  | [first, second] =>
      have firstItem : Checked.item [first, second] 0 = .ok first := rfl
      have secondItem : Checked.item [first, second] 1 = .ok second := rfl
      have twoBytes : ¬[first, second].length ≠ 2 := not_not.mpr rfl
      simp only [if_neg twoBytes, firstItem, secondItem, Checked.ok_bind]
      by_cases high : 100 < first.toNat
      · rw [if_pos high]
        constructor
        · exact nofun
        · rintro ⟨low, encoded⟩
          cases encoded
          omega
      · rw [if_neg high]
        constructor
        · intro returned
          cases returned
          exact ⟨Nat.le_of_not_lt high, rfl⟩
        · rintro ⟨_, encoded⟩
          cases encoded
          rfl
  | first :: second :: third :: rest =>
      have long : (first :: second :: third :: rest).length ≠ 2 := by
        simp only [List.length_cons]
        omega
      rw [if_pos long]
      exact ⟨nofun, fun encoded => nomatch encoded.2⟩

theorem parseRawPosition_eq_ok_iff {response : ApplicationResponse} {rawPosition : RawPosition} :
    parseRawPosition response = .ok rawPosition ↔
      (response.command = .getPosition ∨ response.command = .getStatus) ∧
        ∃ rest, response.payload = rawPositionPayload rawPosition rest := by
  unfold parseRawPosition
  by_cases isPosition : response.command = .getPosition ∨ response.command = .getStatus
  · have positional : ¬(response.command ≠ .getPosition ∧ response.command ≠ .getStatus) := by
      rintro ⟨notPosition, notStatus⟩
      rcases isPosition with same | same
      · exact notPosition same
      · exact notStatus same
    rw [if_neg positional]
    by_cases short : response.payload.length < 2
    · rw [if_pos short]
      constructor
      · exact nofun
      · rintro ⟨_, rest, encoded⟩
        rw [encoded, rawPositionPayload, List.length_append, toLittleEndian_length] at short
        omega
    · have twoBytes : (response.payload.take 2).length = 2 := by
        rw [List.length_take]
        omega
      have restored := toLittleEndian_ofLittleEndian (response.payload.take 2)
      rw [twoBytes] at restored
      rw [if_neg short]
      simp only
      constructor
      · intro returned
        split at returned
        · cases returned
          refine ⟨isPosition, response.payload.drop 2, ?_⟩
          rw [rawPositionPayload, restored, List.take_append_drop]
        · cases returned
      · rintro ⟨_, rest, encoded⟩
        have bound := rawPosition.le
        have front : response.payload.take 2 = toLittleEndian 2 rawPosition.val := by
          rw [encoded]
          rfl
        have value : ofLittleEndian (response.payload.take 2) = rawPosition.val := by
          rw [front, ofLittleEndian_toLittleEndian, Nat.mod_eq_of_lt (by omega)]
        simp only [value]
        rw [dif_pos bound]
  · have foreign : response.command ≠ .getPosition ∧ response.command ≠ .getStatus :=
      not_or.mp isPosition
    rw [if_pos foreign]
    exact ⟨nofun, fun encoded => absurd encoded.1 isPosition⟩

theorem statusPayload_bytes {rawPosition : RawPosition} {battery charge calibrated : UInt8}
    (inRange : battery.toNat ≤ 100) (isBoolean : calibrated = 0 ∨ calibrated = 1) :
    rawPositionPayload rawPosition [battery, charge, calibrated] =
      statusPayload ⟨rawPosition.val, battery.toNat, charge, calibrated != 0, rawPosition.le,
        inRange⟩ := by
  unfold rawPositionPayload statusPayload
  rw [UInt8.ofNat_toNat]
  rcases isBoolean with rfl | rfl
  · rfl
  · rfl

theorem parseStatus_eq_ok_iff {response : ApplicationResponse} {status : ShadeStatus} :
    parseStatus response = .ok status ↔
      response.command = .getStatus ∧ response.payload = statusPayload status := by
  constructor
  · rw [← Checked.parseStatus_eq, Checked.parseStatus, requireResponseCommand_bind_eq_ok_iff]
    rintro ⟨isStatus, parsed⟩
    refine ⟨isStatus, ?_⟩
    split at parsed
    · cases parsed
    · next fiveBytes =>
        cases found : parseRawPosition response with
        | error error =>
            rw [found] at parsed
            cases parsed
        | ok rawPosition =>
            rcases (parseRawPosition_eq_ok_iff.mp found).2 with ⟨rest, encoded⟩
            have restLength : rest.length = 3 := by
              rw [encoded, rawPositionPayload, List.length_append, toLittleEndian_length]
                at fiveBytes
              omega
            rcases List.length_eq_three.mp restLength with ⟨battery, charge, calibrated, rfl⟩
            have batteryItem : Checked.item response.payload 2 = .ok battery := by
              rw [encoded]
              rfl
            have chargeItem : Checked.item response.payload 3 = .ok charge := by
              rw [encoded]
              rfl
            have calibratedItem : Checked.item response.payload 4 = .ok calibrated := by
              rw [encoded]
              rfl
            rw [found, Checked.ok_bind, batteryItem, Checked.ok_bind] at parsed
            split at parsed
            · next inRange =>
                rw [calibratedItem, Checked.ok_bind] at parsed
                split at parsed
                · cases parsed
                · next notOther =>
                    rw [chargeItem, Checked.ok_bind] at parsed
                    cases parsed
                    rw [encoded]
                    exact statusPayload_bytes inRange (or_iff_not_and_not.mpr notOther)
            · cases parsed
  · rintro ⟨isStatus, encoded⟩
    rcases response with ⟨command, messageId, counter, payload⟩
    cases isStatus
    cases encoded
    exact parseStatus_statusPayload status counter messageId

/-! ## Frames -/

/-- The frame is the shade's encryption of a response with this payload to the request; the
top bit of the flags byte is free. -/
def CarriesPayload (primitives : CryptoPrimitives) (key nonce : Bytes) (command : ShadeCommand)
    (messageId : Int) (expectedCounter : Option Int) (payload frame : Bytes) : Prop :=
  ∃ counter marked, (1 ≤ counter ∧ counter ≤ maxCounter) ∧
    (∀ expected, expectedCounter = some expected → counter = expected) ∧
    frame = ApplicationResponse.encodeMarked primitives key nonce marked
      ⟨command, messageId, counter, payload⟩

section Frames

variable {primitives : CryptoPrimitives} {key nonce : Bytes} {command : ShadeCommand}
variable {messageId : Int} {expectedCounter : Option Int}

/-- A parser that reads a value from certain payloads of one command reads it from the frames
that carry them. -/
theorem decoded_bind_eq_ok_iff {Value : Type} {parse : ApplicationResponse → Raises Value}
    {value : Value} (encodes : Bytes → Prop) (keyLength : key.length = 32)
    (nonceLength : nonce.length = 12) (allowed : command ∈ runtimeCommands)
    (idInRange : 0 ≤ messageId ∧ messageId ≤ 0x0F)
    (exact : ∀ response, response.IsFor command →
      (parse response = .ok value ↔ response.command = command ∧ encodes response.payload))
    (frame : Bytes) :
    (decodeApplicationResponse primitives frame key nonce command messageId
        expectedCounter).bind parse = .ok value ↔
      ∃ payload, encodes payload ∧
        CarriesPayload primitives key nonce command messageId expectedCounter payload frame := by
  have notAck := ne_ack_of_runtime allowed
  constructor
  · intro parsed
    cases decoded : decodeApplicationResponse primitives frame key nonce command messageId
        expectedCounter with
    | error error =>
        rw [decoded] at parsed
        cases parsed
    | ok response =>
        rw [decoded] at parsed
        rcases decodeApplicationResponse_encoded notAck idInRange decoded with
          ⟨answers, marked, encoded⟩
        rcases (exact response answers.command).mp parsed with ⟨isCommand, isValue⟩
        refine ⟨response.payload, isValue, response.counter, marked,
          ⟨answers.counter_pos, answers.counter_le⟩, answers.counter, ?_⟩
        rw [encoded, ← isCommand, ← answers.messageId]
  · rintro ⟨payload, isValue, counter, marked, inRange, isExpected, rfl⟩
    have answers : ApplicationResponse.Answers ⟨command, messageId, counter, payload⟩ command
        messageId expectedCounter :=
      ⟨inRange.1, inRange.2, isExpected, rfl, .inl rfl⟩
    rw [decodeApplicationResponse_encodeMarked keyLength nonceLength allowed idInRange answers]
    exact (exact _ answers.command).mpr ⟨rfl, isValue⟩

/-- The response to a request for this command, under the ids and the key of the request. -/
def decodeFor (primitives : CryptoPrimitives) (key nonce : Bytes) (messageId : Int)
    (expectedCounter : Option Int) (frame : Bytes) (command : ShadeCommand) :
    Raises ApplicationResponse :=
  decodeApplicationResponse primitives frame key nonce command messageId expectedCounter

variable (keyLength : key.length = 32) (nonceLength : nonce.length = 12)
variable (idInRange : 0 ≤ messageId ∧ messageId ≤ 0x0F) (frame : Bytes)

include keyLength nonceLength idInRange

theorem decodeFor_parseName (name : String) :
    (decodeFor primitives key nonce messageId expectedCounter frame .getName).bind
        Checked.parseName = .ok name ↔
      (utf8Bytes name).length ≤ 255 ∧ CarriesPayload primitives key nonce .getName messageId
        expectedCounter (namePayload name) frame := by
  rw [decodeFor, decoded_bind_eq_ok_iff
    (fun payload => (utf8Bytes name).length ≤ 255 ∧ payload = namePayload name) keyLength
    nonceLength (by decide) idInRange (fun response _ => parseName_eq_ok_iff)]
  constructor
  · rintro ⟨_, ⟨short, rfl⟩, carries⟩
    exact ⟨short, carries⟩
  · rintro ⟨short, carries⟩
    exact ⟨_, ⟨short, rfl⟩, carries⟩

theorem decodeFor_parseBattery (level charge : UInt8) :
    (decodeFor primitives key nonce messageId expectedCounter frame .getBattery).bind
        Checked.parseBattery = .ok (level, charge) ↔
      level.toNat ≤ 100 ∧ CarriesPayload primitives key nonce .getBattery messageId
        expectedCounter (batteryPayload level charge) frame := by
  rw [decodeFor, decoded_bind_eq_ok_iff
    (fun payload => level.toNat ≤ 100 ∧ payload = batteryPayload level charge) keyLength
    nonceLength (by decide) idInRange (fun response _ => parseBattery_eq_ok_iff)]
  constructor
  · rintro ⟨_, ⟨low, rfl⟩, carries⟩
    exact ⟨low, carries⟩
  · rintro ⟨low, carries⟩
    exact ⟨_, ⟨low, rfl⟩, carries⟩

/-- Both commands that report a position; an acknowledgement does not. -/
theorem decodeFor_parseRawPosition (isPosition : command = .getPosition ∨ command = .getStatus)
    (rawPosition : RawPosition) :
    (decodeFor primitives key nonce messageId expectedCounter frame command).bind
        parseRawPosition = .ok rawPosition ↔
      ∃ rest, CarriesPayload primitives key nonce command messageId expectedCounter
        (rawPositionPayload rawPosition rest) frame := by
  have allowed : command ∈ runtimeCommands := by
    rcases isPosition with rfl | rfl
    · decide
    · decide
  have exact : ∀ response : ApplicationResponse, response.IsFor command →
      (parseRawPosition response = .ok rawPosition ↔ response.command = command ∧
        ∃ rest, response.payload = rawPositionPayload rawPosition rest) := by
    intro response isFor
    rw [parseRawPosition_eq_ok_iff]
    apply and_congr_left
    intro _
    rcases isFor with same | ⟨isAck, _⟩
    · rw [same]
      exact iff_of_true isPosition rfl
    · rw [isAck]
      exact iff_of_false nofun (Ne.symm (ne_ack_of_runtime allowed))
  rw [decodeFor, decoded_bind_eq_ok_iff
    (fun payload => ∃ rest, payload = rawPositionPayload rawPosition rest) keyLength nonceLength
    allowed idInRange exact]
  constructor
  · rintro ⟨_, ⟨rest, rfl⟩, carries⟩
    exact ⟨rest, carries⟩
  · rintro ⟨rest, carries⟩
    exact ⟨_, ⟨rest, rfl⟩, carries⟩

theorem decodeFor_parseStatus (status : ShadeStatus) :
    (decodeFor primitives key nonce messageId expectedCounter frame .getStatus).bind
        parseStatus = .ok status ↔
      CarriesPayload primitives key nonce .getStatus messageId expectedCounter
        (statusPayload status) frame := by
  rw [decodeFor, decoded_bind_eq_ok_iff (fun payload => payload = statusPayload status) keyLength
    nonceLength (by decide) idInRange (fun response _ => parseStatus_eq_ok_iff)]
  constructor
  · rintro ⟨_, rfl, carries⟩
    exact carries
  · intro carries
    exact ⟨_, rfl, carries⟩

/-- Typed responses are exact. For every key, nonce, message id and counter, a frame that
answers GET_NAME is read as a name, one that answers GET_BATTERY as a level and a charge
status, one that answers GET_POSITION or GET_STATUS as a raw position, and one that answers
GET_STATUS as a status, exactly when it is the shade's encryption of the payload of that
value, apart from the top bit of the flags byte, which is free. The bytes after a position
are ignored. -/
theorem typed_responses_exact :
    (∀ name,
      (decodeFor primitives key nonce messageId expectedCounter frame .getName).bind
          Checked.parseName = .ok name ↔
        (utf8Bytes name).length ≤ 255 ∧ CarriesPayload primitives key nonce .getName messageId
          expectedCounter (namePayload name) frame) ∧
    (∀ level charge,
      (decodeFor primitives key nonce messageId expectedCounter frame .getBattery).bind
          Checked.parseBattery = .ok (level, charge) ↔
        level.toNat ≤ 100 ∧ CarriesPayload primitives key nonce .getBattery messageId
          expectedCounter (batteryPayload level charge) frame) ∧
    (∀ command, command = .getPosition ∨ command = .getStatus → ∀ rawPosition,
      (decodeFor primitives key nonce messageId expectedCounter frame command).bind
          parseRawPosition = .ok rawPosition ↔
        ∃ rest, CarriesPayload primitives key nonce command messageId expectedCounter
          (rawPositionPayload rawPosition rest) frame) ∧
    ∀ status,
      (decodeFor primitives key nonce messageId expectedCounter frame .getStatus).bind
          parseStatus = .ok status ↔
        CarriesPayload primitives key nonce .getStatus messageId expectedCounter
          (statusPayload status) frame :=
  ⟨decodeFor_parseName keyLength nonceLength idInRange frame,
    decodeFor_parseBattery keyLength nonceLength idInRange frame,
    fun _ => decodeFor_parseRawPosition keyLength nonceLength idInRange frame,
    decodeFor_parseStatus keyLength nonceLength idInRange frame⟩

end Frames

/-- A name of two characters, under counter 7 and message id 3. -/
theorem typed_responses_exact_name :
    (decodeFor .constant PairingKey.zero.bytes zeroNonce 3 (some 7)
      (ApplicationResponse.encodeMarked .constant PairingKey.zero.bytes zeroNonce false
        ⟨.getName, 3, 7, namePayload "Hi"⟩) .getName).bind Checked.parseName = .ok "Hi" := by
  have inRange : (1 : Int) ≤ 7 ∧ 7 ≤ maxCounter := by decide
  apply ((typed_responses_exact rfl rfl (by decide) _).1 "Hi").mpr
  refine ⟨by decide, 7, false, inRange, ?_, rfl⟩
  intro expected isExpected
  cases isExpected
  rfl

end SmartblindsBle
