import SmartblindsBle.Tilt.CodecErrors

/-! # The codec with Python's own failures

An index that is out of range, a value that is no member of an enumeration, a number
that does not fit its bytes, and bytes that are no UTF-8 raise exceptions of Python.
Here the parsers are written with operations that may fail so, under the guards and
the handlers of the source; none of these failures escapes.
-/

namespace SmartblindsBle

open Foundation

namespace PythonException

def indexError : PythonException := .other "IndexError"
def valueError : PythonException := .other "ValueError"
def overflowError : PythonException := .other "OverflowError"
def unicodeDecodeError : PythonException := .other "UnicodeDecodeError"

/-- Instances of `ValueError`. -/
def isValueError (error : PythonException) : Bool :=
  error == valueError || error == unicodeDecodeError

end PythonException

namespace Checked

/-! ## Operations that may fail -/

/-- `data[index]`. -/
def item (data : Bytes) (index : Nat) : Raises UInt8 :=
  match data[index]? with
  | some byte => .ok byte
  | none => .error .indexError

/-- One element of the argument of `bytes`. -/
def byteOf (value : Nat) : Raises UInt8 :=
  if value < 256 then .ok (UInt8.ofNat value) else .error .valueError

/-- `value.to_bytes(width, "little")`. -/
def littleEndian (width value : Nat) : Raises Bytes :=
  if value < 256 ^ width then .ok (toLittleEndian width value) else .error .overflowError

/-- `value.to_bytes(width, "big")`. -/
def bigEndian (width value : Nat) : Raises Bytes :=
  if value < 256 ^ width then .ok (toBigEndian width value) else .error .overflowError

/-- `CryptoCommand(value)`. -/
def cryptoCommand (value : UInt8) : Raises CryptoCommand :=
  match CryptoCommand.ofValue? value with
  | some command => .ok command
  | none => .error .valueError

/-- `ShadeCommand(value)`. -/
def shadeCommand (value : UInt8) : Raises ShadeCommand :=
  match ShadeCommand.ofValue? value with
  | some command => .ok command
  | none => .error .valueError

/-- `data.decode("utf-8")`. -/
def decodeUtf8 (data : Bytes) : Raises String :=
  match String.fromUTF8? ⟨data.toArray⟩ with
  | some text => .ok text
  | none => .error .unicodeDecodeError

/-- `_aes_ctr`: the package may be missing, and it refuses keys and initial blocks
of other lengths. -/
def aesCtr (installed : Bool) (primitives : CryptoPrimitives) (data key initialBlock : Bytes) :
    Raises Bytes :=
  if installed = false then
    .error (.tiltProtocolError "The Tilt bridge requires the cryptography package for AES-CTR.")
  else if (key.take 16).length ∉ [16, 24, 32] then .error .valueError
  else if initialBlock.length ≠ 16 then .error .valueError
  else .ok (SmartblindsBle.aesCtr primitives data key initialBlock)

theorem item_eq {data : Bytes} {index : Nat} (inside : index < data.length) :
    item data index = .ok (data.getD index 0) := by
  simp [item, inside]

theorem byteOf_toNat (byte : UInt8) : byteOf byte.toNat = .ok byte := by
  rw [byteOf, if_pos byte.toNat_lt, UInt8.ofNat_toNat]

/-! ## The link layer -/

def parseBleChunk (data : Bytes) : Raises BleChunk :=
  if data.length < 2 then .error (.tiltProtocolError "BLE chunk has an invalid header.")
  else (item data 0).bind fun first =>
    if first ≠ 0 then .error (.tiltProtocolError "BLE chunk has an invalid header.")
    else if maxBlePayload + 2 < data.length then
      .error (.tiltProtocolError "BLE chunk exceeds the protocol payload limit.")
    else (item data 1).bind fun flags =>
      let sequence := (flags &&& 0x3F).toNat
      let forBluetoothLayer := flags &&& bluetoothCommandFlag != 0
      if sequence = 0 ∧ forBluetoothLayer = false then
        .error (.tiltProtocolError "BLE chunk sequence zero is invalid.")
      else
        .ok {
          sequence := sequence
          endOfMessage := flags &&& endOfMessageFlag != 0
          forBluetoothLayer := forBluetoothLayer
          payload := data.drop 2 }

def makeBleAck (sequence : Nat) : Raises Bytes :=
  if ¬(1 ≤ sequence ∧ sequence ≤ maxSequence) then
    .error (.tiltProtocolError "Cannot ACK an invalid BLE sequence.")
  else (byteOf sequence).bind fun sequenceByte =>
    .ok [0, bluetoothCommandFlag ||| endOfMessageFlag, 0x01, sequenceByte]

def parseBleAck (data : Bytes) : Raises Nat :=
  (parseBleChunk data).bind fun chunk =>
    if chunk.forBluetoothLayer = false ∨ chunk.endOfMessage = false then
      .error (.tiltProtocolError "Expected a Bluetooth-layer ACK.")
    else if chunk.payload.length ≠ 2 then
      .error (.tiltProtocolError "Bluetooth-layer ACK payload is invalid.")
    else (item chunk.payload 0).bind fun first =>
      if first ≠ 0x01 then .error (.tiltProtocolError "Bluetooth-layer ACK payload is invalid.")
      else (item chunk.payload 1).bind fun sequence =>
        if ¬(1 ≤ sequence.toNat ∧ sequence.toNat ≤ maxSequence) then
          .error (.tiltProtocolError "Bluetooth-layer ACK sequence is invalid.")
        else (item chunk.payload 1).bind fun returned => .ok returned.toNat

/-- The fields of `BleMessageAssembler`, without the invariant of its constructor. -/
structure AssemblerState where
  expectedSequence : Nat
  buffer : Bytes
  deriving DecidableEq

def add (assembler : AssemblerState) (data : Bytes) :
    AssemblerState × Raises (Nat × Option Bytes) :=
  match parseBleChunk data with
  | .error error => (assembler, .error error)
  | .ok chunk =>
      if chunk.forBluetoothLayer then
        (assembler, .error
          (.tiltProtocolError "Bluetooth command cannot be added to message assembler."))
      else if chunk.sequence ≠ assembler.expectedSequence then
        ({ assembler with buffer := [] }, .error
          (.tiltProtocolError "Received a non-contiguous BLE sequence."))
      else
        match nextSequence chunk.sequence with
        | .error error => (assembler, .error error)
        | .ok next =>
            let buffer := assembler.buffer ++ chunk.payload
            if chunk.endOfMessage = false then (⟨next, buffer⟩, .ok (chunk.sequence, none))
            else (⟨next, []⟩, .ok (chunk.sequence, some buffer))

/-! ## The crypto layer -/

def verifyChecksum (header framed : Bytes) : Raises Bytes :=
  if framed.length < 3 then
    .error (.tiltProtocolError "Tilt message is too short for payload and checksum.")
  else
    let payload := framed.take (framed.length - 2)
    let received := ofLittleEndian (framed.drop (framed.length - 2))
    (littleEndian 2 received).bind fun receivedBytes =>
      (littleEndian 2 (crc16 (header ++ payload))).bind fun computedBytes =>
        if receivedBytes ≠ computedBytes then
          .error (.authenticationError "Tilt message checksum verification failed.")
        else .ok payload

/-- The handler for `IndexError` and `ValueError` around the lookup of a command. -/
def commandOf (payload : Bytes) : Raises CryptoCommand :=
  match (item payload 0).bind cryptoCommand with
  | .ok command => .ok command
  | .error error =>
      if error = .indexError ∨ error.isValueError = true then
        .error (.tiltProtocolError "Unknown crypto response command.")
      else .error error

def parseCryptoResponse (frame : Bytes) : Raises CryptoResponse :=
  if frame.length < 5 then .error (.tiltProtocolError "Crypto response is too short.")
  else
    let header := frame.take 2
    if ofBigEndian header ≠ cryptoLayerFlag then
      .error (.tiltProtocolError "Expected an unencrypted crypto-layer response.")
    else (verifyChecksum header (frame.drop 2)).bind fun payload =>
      (commandOf payload).bind fun command =>
        if command ∉ allowedCryptoResponses then
          .error (.unsafeCommandError "Crypto response is outside the runtime allowlist.")
        else .ok ⟨command, payload.drop 1⟩

def parseProtocolVersions (response : CryptoResponse) : Raises (List UInt8) :=
  if response.command ≠ .requestProtocolVersions then
    .error (.tiltProtocolError "Expected a protocol-version response.")
  else if response.payload = [] then
    .error (.tiltProtocolError "Protocol-version response is missing its count.")
  else (item response.payload 0).bind fun count =>
    let versions := (response.payload.drop 1).take count.toNat
    if versions.length ≠ count.toNat then
      .error (.tiltProtocolError "Protocol-version response length does not match its count.")
    else .ok versions

/-! ## The application layer -/

def counterHeader (counter : Int) : Raises Bytes :=
  if ¬(1 ≤ counter ∧ counter ≤ maxCounter) then
    .error (.tiltProtocolError
      ("Encryption counter must be between 1 and " ++ toString maxCounter ++ "."))
  else bigEndian 2 counter.toNat

/-- The handler for `ValueError` around the lookup of a command. -/
def shadeCommandOf (value : UInt8) : Raises ShadeCommand :=
  match shadeCommand value with
  | .ok command => .ok command
  | .error error =>
      if error.isValueError = true then
        .error (.tiltProtocolError "Unknown application response command.")
      else .error error

/-- The checks of `decode_application_response` on the decrypted presentation. -/
def decodePresentation (presentation : Bytes) (expectedCommand : ShadeCommand)
    (expectedMessageId counter : Int) : Raises ApplicationResponse :=
  if presentation.length < 2 then
    .error (.tiltProtocolError "Application response has no command.")
  else (item presentation 0).bind fun flags =>
    if flags &&& presentationResponseFlag = 0 then
      .error (.tiltProtocolError "Application message is not marked as a response.")
    else if flags &&& presentationReservedFlags ≠ 0 then
      .error (.tiltProtocolError "Application response has reserved presentation flags set.")
    else
      let messageId : Int := (flags &&& 0x0F).toNat
      if messageId ≠ expectedMessageId then
        .error (.tiltProtocolError "Application response message id does not match request.")
      else ((item presentation 1).bind shadeCommandOf).bind fun command =>
        let payload := presentation.drop 2
        let response : ApplicationResponse := ⟨command, messageId, counter, payload⟩
        if command = .ack then
          if payload = [] then
            .error (.tiltProtocolError "Application ACK does not match the requested command.")
          else (item payload 0).bind fun acknowledged =>
            if acknowledged ≠ expectedCommand.value then
              .error (.tiltProtocolError
                "Application ACK does not match the requested command.")
            else .ok response
        else if command ≠ expectedCommand then
          .error (.tiltProtocolError "Application response command does not match request.")
        else .ok response

def decodeApplicationResponse (installed : Bool) (primitives : CryptoPrimitives)
    (frame key nonce : Bytes) (expectedCommand : ShadeCommand) (expectedMessageId : Int)
    (expectedCounter : Option Int) : Raises ApplicationResponse :=
  (requireKeyAndNonce key nonce).bind fun _ =>
    if expectedCommand ∉ runtimeCommands then
      .error (.unsafeCommandError "Expected command is outside the runtime allowlist.")
    else if frame.length < 6 then
      .error (.tiltProtocolError "Encrypted application response is too short.")
    else
      let header := frame.take 2
      let headerValue := ofBigEndian header
      if headerValue &&& cryptoLayerFlag ≠ 0 then
        .error (.tiltProtocolError "Expected an encrypted application-layer response.")
      else
        let counter : Int := (headerValue &&& maxCounter.toNat : Nat)
        (counterHeader counter).bind fun _ =>
          if expectedCounter.isSome ∧ expectedCounter ≠ some counter then
            .error (.tiltProtocolError "Application response counter does not match request.")
          else (item header 0).bind fun high =>
            (item header 1).bind fun low =>
              (byteOf (high.toNat ||| 0x80)).bind fun marked =>
                (aesCtr installed primitives (frame.drop 2) key
                  (nonce ++ [marked, low] ++ [0, 0])).bind fun plaintext =>
                    (verifyChecksum header plaintext).bind fun presentation =>
                      decodePresentation presentation expectedCommand expectedMessageId counter

def parseName (response : ApplicationResponse) : Raises String :=
  (requireResponseCommand response .getName).bind fun _ =>
    if response.payload = [] then
      .error (.tiltProtocolError "Name response is missing its length.")
    else (item response.payload 0).bind fun length =>
      let nameBytes := (response.payload.drop 1).take length.toNat
      if nameBytes.length ≠ length.toNat ∨ response.payload.length ≠ length.toNat + 1 then
        .error (.tiltProtocolError "Name response length is invalid.")
      else
        match decodeUtf8 nameBytes with
        | .ok name => .ok name
        | .error error =>
            if error = .unicodeDecodeError then
              .error (.tiltProtocolError "Name response is not valid UTF-8.")
            else .error error

def parseStatus (response : ApplicationResponse) : Raises ShadeStatus :=
  (requireResponseCommand response .getStatus).bind fun _ =>
    if response.payload.length ≠ 5 then
      .error (.tiltProtocolError "Status response must be exactly five bytes.")
    else (parseRawPosition response).bind fun rawPosition =>
      (item response.payload 2).bind fun battery =>
        if inRange : battery.toNat ≤ 100 then
          (item response.payload 4).bind fun calibrated =>
            if calibrated ≠ 0 ∧ calibrated ≠ 1 then
              .error (.tiltProtocolError "Calibrated flag is not boolean.")
            else (item response.payload 3).bind fun charge =>
              .ok {
                rawPosition := rawPosition
                batteryPercent := battery.toNat
                chargeStatus := charge
                calibrated := calibrated != 0
                rawPosition_le := RawPosition.le rawPosition
                batteryPercent_le := inRange }
        else .error (.tiltProtocolError "Battery percentage is outside 0 to 100.")

def parseBattery (response : ApplicationResponse) : Raises (UInt8 × UInt8) :=
  (requireResponseCommand response .getBattery).bind fun _ =>
    if response.payload.length ≠ 2 then
      .error (.tiltProtocolError "Battery response is invalid.")
    else (item response.payload 0).bind fun level =>
      if 100 < level.toNat then .error (.tiltProtocolError "Battery response is invalid.")
      else (item response.payload 0).bind fun battery =>
        (item response.payload 1).bind fun charge => .ok (battery, charge)

/-! ## The guards make the operations safe -/

theorem littleEndian_eq {width value : Nat} (fits : value < 256 ^ width) :
    littleEndian width value = .ok (toLittleEndian width value) := if_pos fits

theorem bigEndian_eq {width value : Nat} (fits : value < 256 ^ width) :
    bigEndian width value = .ok (toBigEndian width value) := if_pos fits

theorem ok_bind {First Second : Type} (value : First) (rest : First → Raises Second) :
    (.ok value : Raises First).bind rest = rest value := rfl

theorem parseBleChunk_eq (data : Bytes) :
    parseBleChunk data = SmartblindsBle.parseBleChunk data := by
  match data with
  | [] => rfl
  | [first] =>
      unfold SmartblindsBle.parseBleChunk
      split
      · next same => cases same
      · rfl
  | first :: flags :: payload =>
      have notShort : ¬(first :: flags :: payload).length < 2 := by
        simp only [List.length_cons]
        omega
      rw [parseBleChunk, if_neg notShort, item_eq (by simp), ok_bind]
      by_cases isZero : first = 0
      · subst isZero
        rfl
      · unfold SmartblindsBle.parseBleChunk
        rw [List.getD_cons_zero, if_pos isZero]
        split
        · next same =>
            cases same
            exact absurd rfl isZero
        · rfl

theorem makeBleAck_eq (sequence : Nat) :
    makeBleAck sequence = SmartblindsBle.makeBleAck sequence := by
  unfold makeBleAck SmartblindsBle.makeBleAck
  by_cases inRange : 1 ≤ sequence ∧ sequence ≤ maxSequence
  · have fits : sequence < 256 := by
      have bound := inRange.2
      unfold maxSequence at bound
      omega
    rw [if_neg (not_not.mpr inRange), if_pos inRange, byteOf, if_pos fits, ok_bind]
  · rw [if_pos inRange, if_neg inRange]

theorem parseBleAck_eq (data : Bytes) :
    parseBleAck data = SmartblindsBle.parseBleAck data := by
  unfold parseBleAck SmartblindsBle.parseBleAck
  rw [parseBleChunk_eq]
  cases parsed : SmartblindsBle.parseBleChunk data with
  | error error => rfl
  | ok chunk =>
      rw [ok_bind]
      simp only
      split
      · rfl
      · match chunk.payload with
        | [] => rfl
        | [first] =>
            rw [if_pos (by simp)]
            split
            · next same => cases same
            · rfl
        | [first, sequence] =>
            have firstItem : item [first, sequence] 0 = .ok first := rfl
            have secondItem : item [first, sequence] 1 = .ok sequence := rfl
            rw [if_neg (by simp), firstItem, ok_bind, secondItem, ok_bind, ok_bind]
            by_cases isAck : first = 1
            · subst isAck
              rw [if_neg (not_not.mpr rfl)]
              exact ite_not ..
            · rw [if_pos isAck]
              split
              · next same =>
                  cases same
                  exact absurd rfl isAck
              · rfl
        | first :: sequence :: third :: rest =>
            rw [if_pos (by simp)]
            split
            · next same => cases same
            · rfl

theorem verifyChecksum_eq (header framed : Bytes) :
    verifyChecksum header framed = SmartblindsBle.verifyChecksum header framed := by
  unfold verifyChecksum SmartblindsBle.verifyChecksum
  split
  · rfl
  · next long =>
      have received := ofLittleEndian_lt (framed.drop (framed.length - 2))
      rw [List.length_drop, Nat.sub_sub_self (by omega)] at received
      simp only [littleEndian_eq received, littleEndian_eq (crc16_lt _), ok_bind]

theorem commandOf_cons (value : UInt8) (rest : Bytes) :
    commandOf (value :: rest) =
      match CryptoCommand.ofValue? value with
      | some command => .ok command
      | none => .error (.tiltProtocolError "Unknown crypto response command.") := by
  unfold commandOf
  rw [item_eq (by simp), ok_bind, List.getD_cons_zero, cryptoCommand]
  cases CryptoCommand.ofValue? value with
  | none => rfl
  | some command => rfl

theorem parseCryptoResponse_eq (frame : Bytes) :
    parseCryptoResponse frame = SmartblindsBle.parseCryptoResponse frame := by
  unfold parseCryptoResponse SmartblindsBle.parseCryptoResponse
  simp only [verifyChecksum_eq]
  split
  · rfl
  · split
    · rfl
    · cases SmartblindsBle.verifyChecksum (frame.take 2) (frame.drop 2) with
      | error error => rfl
      | ok payload =>
          cases payload with
          | nil => rfl
          | cons first payload =>
              rw [ok_bind, commandOf_cons]
              simp only
              cases CryptoCommand.ofValue? first with
              | none => rfl
              | some command => rfl

theorem parseProtocolVersions_eq (response : CryptoResponse) :
    parseProtocolVersions response = SmartblindsBle.parseProtocolVersions response := by
  unfold parseProtocolVersions SmartblindsBle.parseProtocolVersions
  split
  · rfl
  · cases response.payload with
    | nil => rfl
    | cons count rest =>
        rw [if_neg (List.cons_ne_nil _ _), item_eq (by simp), ok_bind]
        rfl

theorem counterHeader_eq (counter : Int) :
    counterHeader counter = SmartblindsBle.counterHeader counter := by
  unfold counterHeader SmartblindsBle.counterHeader
  by_cases inRange : 1 ≤ counter ∧ counter ≤ maxCounter
  · have fits : counter.toNat < 256 ^ 2 := by
      have bound := inRange.2
      unfold maxCounter at bound
      omega
    rw [if_neg (not_not.mpr inRange), if_pos inRange, bigEndian_eq fits]
  · rw [if_pos inRange, if_neg inRange]

theorem shadeCommandOf_eq (value : UInt8) :
    shadeCommandOf value =
      match ShadeCommand.ofValue? value with
      | some command => .ok command
      | none => .error (.tiltProtocolError "Unknown application response command.") := by
  unfold shadeCommandOf shadeCommand
  cases ShadeCommand.ofValue? value with
  | none => rfl
  | some command => rfl

theorem decodePresentation_eq (presentation : Bytes) (expectedCommand : ShadeCommand)
    (expectedMessageId counter : Int) :
    decodePresentation presentation expectedCommand expectedMessageId counter =
      SmartblindsBle.decodePresentation presentation expectedCommand expectedMessageId counter := by
  match presentation with
  | [] => rfl
  | [flags] => rfl
  | flags :: commandByte :: payload =>
      have notShort : ¬(flags :: commandByte :: payload).length < 2 := by
        simp only [List.length_cons]
        omega
      have first : item (flags :: commandByte :: payload) 0 = .ok flags := rfl
      have second : item (flags :: commandByte :: payload) 1 = .ok commandByte := rfl
      unfold decodePresentation SmartblindsBle.decodePresentation
      rw [if_neg notShort, first, ok_bind, second]
      simp only
      split
      · rfl
      · split
        · rfl
        · split
          · rfl
          · rw [ok_bind, shadeCommandOf_eq]
            cases ShadeCommand.ofValue? commandByte with
            | none => rfl
            | some command =>
                rw [ok_bind]
                simp only [List.drop_succ_cons, List.drop_zero]
                by_cases isAck : command = .ack
                · cases payload with
                  | nil => simp [isAck]
                  | cons acknowledged payload =>
                      have head : item (acknowledged :: payload) 0 = .ok acknowledged := rfl
                      simp [isAck, head, ok_bind]
                · simp [isAck]

theorem aesCtr_eq {primitives : CryptoPrimitives} {data key initialBlock : Bytes}
    (keyLength : key.length = 32) (blockLength : initialBlock.length = 16) :
    aesCtr true primitives data key initialBlock =
      .ok (SmartblindsBle.aesCtr primitives data key initialBlock) := by
  simp [aesCtr, keyLength, blockLength]

theorem parseStatus_eq (response : ApplicationResponse) :
    parseStatus response = SmartblindsBle.parseStatus response := by
  unfold parseStatus SmartblindsBle.parseStatus
  cases requireResponseCommand response .getStatus with
  | error error => rfl
  | ok _ =>
      rw [ok_bind]
      simp only
      split
      · rfl
      · next fiveBytes =>
          have inside (index : Nat) (small : index < 5) :
              item response.payload index = .ok (response.payload.getD index 0) := by
            apply item_eq
            omega
          cases parseRawPosition response with
          | error error => rfl
          | ok rawPosition =>
              simp only [ok_bind, inside 2 (by decide), inside 3 (by decide),
                inside 4 (by decide)]

theorem byteOf_marked (byte : UInt8) : byteOf (byte.toNat ||| 0x80) = .ok (byte ||| 0x80) :=
  byteOf_toNat (byte ||| 0x80)

theorem header_items {frame : Bytes} (long : ¬frame.length < 6) :
    item (frame.take 2) 0 = .ok ((frame.take 2).getD 0 0) ∧
      item (frame.take 2) 1 = .ok ((frame.take 2).getD 1 0) := by
  have twoBytes : (frame.take 2).length = 2 := by
    rw [List.length_take]
    omega
  constructor
  · apply item_eq
    omega
  · apply item_eq
    omega

theorem requireKeyAndNonce_eq_ok {key nonce : Bytes}
    (accepted : requireKeyAndNonce key nonce = .ok ()) :
    key.length = 32 ∧ nonce.length = 12 := by
  unfold requireKeyAndNonce at accepted
  split at accepted
  · cases accepted
  · next keyLength =>
      split at accepted
      · cases accepted
      · next nonceLength => exact ⟨not_not.mp keyLength, not_not.mp nonceLength⟩

/-- Where the package is installed this is the decoder. -/
theorem decodeApplicationResponse_eq (primitives : CryptoPrimitives) (frame key nonce : Bytes)
    (expectedCommand : ShadeCommand) (expectedMessageId : Int) (expectedCounter : Option Int) :
    decodeApplicationResponse true primitives frame key nonce expectedCommand expectedMessageId
        expectedCounter =
      SmartblindsBle.decodeApplicationResponse primitives frame key nonce expectedCommand
        expectedMessageId expectedCounter := by
  unfold decodeApplicationResponse SmartblindsBle.decodeApplicationResponse
  cases accepted : requireKeyAndNonce key nonce with
  | error error => rfl
  | ok _ =>
      rcases requireKeyAndNonce_eq_ok accepted with ⟨keyLength, nonceLength⟩
      rw [ok_bind]
      simp only
      split
      · rfl
      · split
        · rfl
        · next long =>
            split
            · rfl
            · rw [counterHeader_eq]
              cases SmartblindsBle.counterHeader
                  (ofBigEndian (frame.take 2) &&& maxCounter.toNat : Nat) with
              | error error => rfl
              | ok _ =>
                  rw [ok_bind]
                  simp only
                  split
                  · rfl
                  · rcases header_items long with ⟨high, low⟩
                    rw [high, ok_bind, low, ok_bind, byteOf_marked, ok_bind,
                      aesCtr_eq keyLength (by simp [nonceLength]), ok_bind, verifyChecksum_eq]
                    change Except.bind (SmartblindsBle.verifyChecksum _
                      (SmartblindsBle.aesCtr _ _ _ (responseBlock nonce (frame.take 2)))) _ = _
                    cases SmartblindsBle.verifyChecksum (frame.take 2)
                        (SmartblindsBle.aesCtr primitives (frame.drop 2) key
                          (responseBlock nonce (frame.take 2))) with
                    | error error => rfl
                    | ok presentation => exact decodePresentation_eq ..

/-! ## Only errors of the codec escape -/

theorem bind_errors {First Second : Type} {first : Raises First} {second : First → Raises Second}
    (firstErrors : RaisesProtocolErrors first)
    (secondErrors : ∀ value, first = .ok value → RaisesProtocolErrors (second value)) :
    RaisesProtocolErrors (first.bind second) :=
  RaisesOnly.bind firstErrors secondErrors

theorem ite_errors {Value : Type} {condition : Prop} [Decidable condition]
    {first second : Raises Value} (firstErrors : condition → RaisesProtocolErrors first)
    (secondErrors : ¬condition → RaisesProtocolErrors second) :
    RaisesProtocolErrors (if condition then first else second) := by
  by_cases holds : condition
  · rw [if_pos holds]
    exact firstErrors holds
  · rw [if_neg holds]
    exact secondErrors holds

theorem ok_errors {Value : Type} (value : Value) :
    RaisesProtocolErrors (.ok value : Raises Value) := nofun

theorem error_errors {Value : Type} {error : PythonException}
    (isProtocol : error.isTiltProtocolError = true) :
    RaisesProtocolErrors (.error error : Raises Value) :=
  RaisesOnly.error isProtocol

theorem item_errors {data : Bytes} {index : Nat} (inside : index < data.length) :
    RaisesProtocolErrors (item data index) := by
  rw [item_eq inside]
  exact ok_errors _

/-- Without the package the decoder raises a `TiltProtocolError` at the latest where it
would decrypt. -/
theorem decodeApplicationResponse_missing (primitives : CryptoPrimitives)
    (frame key nonce : Bytes) (expectedCommand : ShadeCommand) (expectedMessageId : Int)
    (expectedCounter : Option Int) : RaisesProtocolErrors
      (decodeApplicationResponse false primitives frame key nonce expectedCommand
        expectedMessageId expectedCounter) := by
  apply bind_errors (malformed_errors (requireKeyAndNonce_raises key nonce))
  intro _ _
  apply ite_errors
  · exact fun _ => error_errors rfl
  · intro _
    apply ite_errors
    · exact fun _ => error_errors rfl
    · intro long
      apply ite_errors
      · exact fun _ => error_errors rfl
      · intro _
        simp only [counterHeader_eq]
        apply bind_errors (malformed_errors (counterHeader_raises _))
        intro _ _
        apply ite_errors
        · exact fun _ => error_errors rfl
        · intro _
          rcases header_items long with ⟨high, low⟩
          rw [high, ok_bind, low, ok_bind, byteOf_marked, ok_bind]
          exact error_errors rfl

theorem decodeApplicationResponse_errors (installed : Bool) (primitives : CryptoPrimitives)
    (frame key nonce : Bytes) (expectedCommand : ShadeCommand) (expectedMessageId : Int)
    (expectedCounter : Option Int) : RaisesProtocolErrors
      (decodeApplicationResponse installed primitives frame key nonce expectedCommand
        expectedMessageId expectedCounter) := by
  cases installed with
  | false => exact decodeApplicationResponse_missing _ _ _ _ _ _ _
  | true =>
      rw [decodeApplicationResponse_eq]
      exact SmartblindsBle.decodeApplicationResponse_errors _ _ _ _ _ _ _

theorem parseName_errors (response : ApplicationResponse) :
    RaisesProtocolErrors (parseName response) := by
  apply bind_errors (malformed_errors (requireResponseCommand_raises response .getName))
  intro _ _
  apply ite_errors
  · exact fun _ => error_errors rfl
  · intro nonempty
    apply bind_errors (item_errors (List.length_pos_iff.mpr nonempty))
    intro length _
    apply ite_errors
    · exact fun _ => error_errors rfl
    · intro _
      unfold decodeUtf8
      cases String.fromUTF8? ⟨((response.payload.drop 1).take length.toNat).toArray⟩ with
      | none => exact error_errors rfl
      | some name => exact ok_errors name

theorem parseBattery_errors (response : ApplicationResponse) :
    RaisesProtocolErrors (parseBattery response) := by
  apply bind_errors (malformed_errors (requireResponseCommand_raises response .getBattery))
  intro _ _
  apply ite_errors
  · exact fun _ => error_errors rfl
  · intro twoBytes
    have inside (index : Nat) (small : index < 2) :
        RaisesProtocolErrors (item response.payload index) := by
      apply item_errors
      omega
    apply bind_errors (inside 0 (by decide))
    intro level _
    apply ite_errors
    · exact fun _ => error_errors rfl
    · intro _
      apply bind_errors (inside 0 (by decide))
      intro battery _
      apply bind_errors (inside 1 (by decide))
      intro charge _
      exact ok_errors _

theorem add_errors (assembler : AssemblerState) (data : Bytes) :
    RaisesProtocolErrors (add assembler data).2 := by
  unfold add
  rw [parseBleChunk_eq]
  cases parsed : SmartblindsBle.parseBleChunk data with
  | error error =>
      have isProtocol := malformed_errors (parseBleChunk_raises data) error parsed
      exact error_errors isProtocol
  | ok chunk =>
      simp only
      split
      · exact error_errors rfl
      · split
        · exact error_errors rfl
        · cases advanced : nextSequence chunk.sequence with
          | error error =>
              have isProtocol :=
                malformed_errors (nextSequence_raises chunk.sequence) error advanced
              exact error_errors isProtocol
          | ok next =>
              simp only
              split
              · exact ok_errors _
              · exact ok_errors _

theorem add_accepted_sequence {assembler after : AssemblerState} {data : Bytes}
    {sequence : Nat} {message : Option Bytes}
    (accepted : add assembler data = (after, .ok (sequence, message))) :
    makeBleAck sequence = .ok (bleAck sequence) ∧
      nextSequence sequence = .ok after.expectedSequence := by
  unfold add at accepted
  split at accepted
  · cases accepted
  · next chunk parsed =>
      split at accepted
      · cases accepted
      · split at accepted
        · cases accepted
        · split at accepted
          · cases accepted
          · next next advanced =>
              rcases nextSequence_eq_ok advanced with ⟨positive, bound, _⟩
              split at accepted
              · cases accepted
                rw [makeBleAck_eq]
                exact ⟨SmartblindsBle.makeBleAck_eq positive bound, advanced⟩
              · cases accepted
                rw [makeBleAck_eq]
                exact ⟨SmartblindsBle.makeBleAck_eq positive bound, advanced⟩

def AssemblerState.of (assembler : BleMessageAssembler) : AssemblerState :=
  ⟨assembler.expectedSequence, assembler.buffer⟩

/-- The assembler keeps its invariant, so `next_sequence` never raises in it. -/
theorem add_eq (assembler : BleMessageAssembler) (data : Bytes) :
    add (.of assembler) data = (.of (assembler.add data).1, (assembler.add data).2) := by
  unfold add
  rw [parseBleChunk_eq]
  cases parsed : SmartblindsBle.parseBleChunk data with
  | error error =>
      rw [BleMessageAssembler.add_error parsed]
  | ok chunk =>
      cases isBluetooth : chunk.forBluetoothLayer with
      | true =>
          rw [BleMessageAssembler.add_bluetooth parsed isBluetooth]
          simp [isBluetooth]
      | false =>
          by_cases contiguous : chunk.sequence = assembler.expectedSequence
          · have advances := nextSequence_eq assembler.expectedSequence_pos
              assembler.expectedSequence_le
            rw [BleMessageAssembler.add_accepted parsed isBluetooth contiguous]
            cases ends : chunk.endOfMessage <;>
              simp [isBluetooth, contiguous, AssemblerState.of, advances, ends,
                BleMessageAssembler.advance]
          · rw [BleMessageAssembler.add_noncontiguous parsed isBluetooth contiguous]
            simp [isBluetooth, contiguous, AssemblerState.of, BleMessageAssembler.clear]

theorem parseCryptoResponse_errors (frame : Bytes) :
    RaisesProtocolErrors (parseCryptoResponse frame) := by
  rw [parseCryptoResponse_eq]
  intro error failed
  rcases parseCryptoResponse_raises frame error failed with malformed | ⟨isAuthentication, _⟩
  · exact (Bool.and_eq_true_iff.mp malformed).1
  · cases error <;> first | rfl | cases isAuthentication

theorem parseProtocolVersions_errors (response : CryptoResponse) :
    RaisesProtocolErrors (parseProtocolVersions response) := by
  rw [parseProtocolVersions_eq]
  exact malformed_errors (parseProtocolVersions_raises response)

theorem parseStatus_errors (response : ApplicationResponse) :
    RaisesProtocolErrors (parseStatus response) := by
  rw [parseStatus_eq]
  exact malformed_errors (parseStatus_raises response)

/-- Whatever bytes the parsers are given, the outcome is a value or an error of the codec. -/
theorem codec_raisesProtocolErrors (installed : Bool) (primitives : CryptoPrimitives) :
    (∀ data, RaisesProtocolErrors (parseBleChunk data)) ∧
    (∀ data, RaisesProtocolErrors (parseBleAck data)) ∧
    (∀ assembler data, RaisesProtocolErrors (add assembler data).2) ∧
    (∀ frame, RaisesProtocolErrors ((parseCryptoResponse frame).bind parseProtocolVersions) ∧
      RaisesProtocolErrors ((parseCryptoResponse frame).bind parseNonceResponse)) ∧
    (∀ frame key nonce expectedCommand expectedMessageId expectedCounter,
      let decoded := decodeApplicationResponse installed primitives frame key nonce
        expectedCommand expectedMessageId expectedCounter
      RaisesProtocolErrors (decoded.bind parseStatus) ∧
        RaisesProtocolErrors (decoded.bind parseName) ∧
        RaisesProtocolErrors (decoded.bind parseBattery) ∧
        RaisesProtocolErrors (decoded.bind parseRawPosition)) ∧
    (∀ assembler data after sequence message,
      add assembler data = (after, .ok (sequence, message)) →
        (∃ ack, makeBleAck sequence = .ok ack) ∧ ∃ next, nextSequence sequence = .ok next) := by
  refine ⟨?_, ?_, add_errors, ?_, ?_, ?_⟩
  · intro data
    rw [parseBleChunk_eq]
    exact malformed_errors (parseBleChunk_raises data)
  · intro data
    rw [parseBleAck_eq]
    exact malformed_errors (parseBleAck_raises data)
  · intro frame
    have parses := parseCryptoResponse_errors frame
    constructor
    · exact bind_errors parses fun response _ => parseProtocolVersions_errors response
    · exact bind_errors parses fun response _ =>
        malformed_errors (parseNonceResponse_raises response)
  · intro frame key nonce expectedCommand expectedMessageId expectedCounter
    have decodes := decodeApplicationResponse_errors installed primitives frame key nonce
      expectedCommand expectedMessageId expectedCounter
    refine ⟨?_, ?_, ?_, ?_⟩
    · exact bind_errors decodes fun response _ => parseStatus_errors response
    · exact bind_errors decodes fun response _ => parseName_errors response
    · exact bind_errors decodes fun response _ => parseBattery_errors response
    · exact bind_errors decodes fun response _ =>
        malformed_errors (parseRawPosition_raises response)
  · intro assembler data after sequence message accepted
    rcases add_accepted_sequence accepted with ⟨acknowledged, advanced⟩
    exact ⟨⟨_, acknowledged⟩, _, advanced⟩

/-- The last sequence number is acknowledged, and the first one follows. -/
theorem codec_raisesProtocolErrors_lastChunk :
    (∃ ack, makeBleAck 63 = .ok ack) ∧ ∃ next, nextSequence 63 = .ok next :=
  (codec_raisesProtocolErrors true ⟨fun _ _ => [], fun _ _ => List.replicate 32 0,
      fun _ _ => List.length_replicate⟩).2.2.2.2.2
    ⟨63, []⟩ [0, 0x7F, 0x01] ⟨1, []⟩ 63 (some [0x01]) (by decide)

end Checked

end SmartblindsBle
