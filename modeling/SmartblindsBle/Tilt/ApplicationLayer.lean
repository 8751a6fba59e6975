import SmartblindsBle.Tilt.CryptoLayer

/-! # The encrypted application layer

A frame is a two-byte counter header and an AES-CTR ciphertext. The plaintext
is a flags byte, a command, a payload and the checksum of header and
plaintext. Requests and responses under one counter use different initial
blocks.
-/

namespace SmartblindsBle

open Foundation

def presentationResponseFlag : UInt8 := 0x40
def presentationReservedFlags : UInt8 := 0x30
def maxCounter : Int := 0x7FFF

/-! ## AES-CTR -/

/-- The counter block `index` blocks after the initial one, incremented as a
128-bit big-endian integer. -/
def counterBlock (initialBlock : Bytes) (index : Nat) : Bytes :=
  toBigEndian 16 ((ofBigEndian initialBlock + index) % 2 ^ 128)

/-- The keystream byte at a position. -/
def keystreamByte (primitives : CryptoPrimitives) (key initialBlock : Bytes)
    (position : Nat) : UInt8 :=
  (primitives.aesEncryptBlock key (counterBlock initialBlock (position / 16))).getD
    (position % 16) 0

/-- AES-CTR under the first half of the pairing key. -/
def aesCtr (primitives : CryptoPrimitives) (data key initialBlock : Bytes) : Bytes :=
  xorWith (keystreamByte primitives (key.take 16) initialBlock) data

@[simp] theorem aesCtr_aesCtr (primitives : CryptoPrimitives) (data key initialBlock : Bytes) :
    aesCtr primitives (aesCtr primitives data key initialBlock) key initialBlock = data := by
  simp [aesCtr]

@[simp] theorem aesCtr_length (primitives : CryptoPrimitives) (data key initialBlock : Bytes) :
    (aesCtr primitives data key initialBlock).length = data.length := by
  simp [aesCtr]

/-! ## Requests -/

def requireKeyAndNonce (key nonce : Bytes) : Raises Unit :=
  if key.length ≠ 32 then
    .error (.tiltProtocolError "Tilt pairing keys must be exactly 32 bytes.")
  else if nonce.length ≠ 12 then
    .error (.tiltProtocolError "Tilt nonces must be exactly 12 bytes.")
  else .ok ()

def counterHeader (counter : Int) : Raises Bytes :=
  if 1 ≤ counter ∧ counter ≤ maxCounter then .ok (toBigEndian 2 counter.toNat)
  else .error (.tiltProtocolError
    ("Encryption counter must be between 1 and " ++ toString maxCounter ++ "."))

def messageIdByte (messageId : Int) (response : Bool) : Raises UInt8 :=
  if 0 ≤ messageId ∧ messageId ≤ 0x0F then
    .ok (UInt8.ofNat messageId.toNat ||| if response then presentationResponseFlag else 0)
  else .error (.tiltProtocolError "Message id must be between 0 and 15.")

/-- The initial counter block of a request. -/
def requestBlock (nonce header : Bytes) : Bytes := nonce ++ header ++ [0, 0]

/-- The plaintext under a header: the presentation and its checksum. -/
def withChecksum (header presentation : Bytes) : Bytes :=
  presentation ++ toLittleEndian 2 (crc16 (header ++ presentation))

/-- The command is an integer: membership in the allowlist compares values. -/
def encodeApplicationRequest (primitives : CryptoPrimitives) (command : Int)
    (payload key nonce : Bytes) (counter messageId : Int) : Raises Bytes :=
  if command ∉ runtimeCommands.map ShadeCommand.toInt then
    .error (.unsafeCommandError "Shade command is not in the runtime allowlist.")
  else
    match requireKeyAndNonce key nonce with
    | .error error => .error error
    | .ok () =>
        match counterHeader counter with
        | .error error => .error error
        | .ok header =>
            match messageIdByte messageId false with
            | .error error => .error error
            | .ok idByte =>
                let presentation := [idByte, UInt8.ofNat command.toNat] ++ payload
                .ok (header ++ aesCtr primitives (withChecksum header presentation) key
                  (requestBlock nonce header))

theorem encodeApplicationRequest_eq_ok {primitives : CryptoPrimitives} {command : Int}
    {payload key nonce frame : Bytes} {counter messageId : Int}
    (encoded : encodeApplicationRequest primitives command payload key nonce counter messageId =
      .ok frame) :
    command ∈ runtimeCommands.map ShadeCommand.toInt ∧ nonce.length = 12 ∧
      (1 ≤ counter ∧ counter ≤ maxCounter) ∧ (0 ≤ messageId ∧ messageId ≤ 0x0F) ∧
      frame = toBigEndian 2 counter.toNat ++
        aesCtr primitives
          (withChecksum (toBigEndian 2 counter.toNat)
            ([UInt8.ofNat messageId.toNat, UInt8.ofNat command.toNat] ++ payload)) key
          (requestBlock nonce (toBigEndian 2 counter.toNat)) := by
  unfold encodeApplicationRequest requireKeyAndNonce counterHeader messageIdByte at encoded
  split at encoded
  · cases encoded
  · next allowed =>
      by_cases keyLength : key.length = 32
      · by_cases nonceLength : nonce.length = 12
        · by_cases counterInRange : 1 ≤ counter ∧ counter ≤ maxCounter
          · by_cases idInRange : 0 ≤ messageId ∧ messageId ≤ 0x0F
            · simp only [keyLength, nonceLength, counterInRange, idInRange, ne_eq,
                not_true_eq_false, reduceIte, and_self, Bool.false_eq_true, UInt8.or_zero,
                Except.ok.injEq] at encoded
              exact ⟨not_not.mp allowed, nonceLength, counterInRange, idInRange, encoded.symm⟩
            · simp [keyLength, nonceLength, counterInRange, idInRange] at encoded
          · simp [keyLength, nonceLength, counterInRange] at encoded
        · simp [keyLength, nonceLength] at encoded
      · simp [keyLength] at encoded

theorem encodeApplicationRequest_length {primitives : CryptoPrimitives} {command : Int}
    {payload key nonce frame : Bytes} {counter messageId : Int}
    (encoded : encodeApplicationRequest primitives command payload key nonce counter messageId =
      .ok frame) :
    frame.length = payload.length + 6 ∧ frame.take 2 = toBigEndian 2 counter.toNat := by
  rcases encodeApplicationRequest_eq_ok encoded with ⟨_, _, _, _, rfl⟩
  refine ⟨?_, rfl⟩
  simp only [withChecksum, List.length_append, toBigEndian_length, aesCtr_length,
    toLittleEndian_length, List.length_cons, List.length_nil]
  omega

/-- The ciphertext of a request, under the initial block of the header that it carries. -/
theorem encodeApplicationRequest_ciphertext {primitives : CryptoPrimitives} {command : Int}
    {payload key nonce frame : Bytes} {counter messageId : Int}
    (encoded : encodeApplicationRequest primitives command payload key nonce counter messageId =
      .ok frame) :
    frame.drop 2 = aesCtr primitives
      (withChecksum (frame.take 2)
        ([UInt8.ofNat messageId.toNat, UInt8.ofNat command.toNat] ++ payload)) key
      (requestBlock nonce (frame.take 2)) := by
  rcases encodeApplicationRequest_eq_ok encoded with ⟨_, _, _, _, rfl⟩
  rfl

def encodeReadRequest (primitives : CryptoPrimitives) (command : Int) (key nonce : Bytes)
    (counter messageId : Int) : Raises Bytes :=
  if command ∉ readCommands.map ShadeCommand.toInt then
    .error (.unsafeCommandError "Only allowlisted read commands may use this encoder.")
  else encodeApplicationRequest primitives command [] key nonce counter messageId

def encodePositionRequest (primitives : CryptoPrimitives) (positionPercent : PythonValue)
    (key nonce : Bytes) (counter messageId : Int) (speed : PythonValue) : Raises Bytes :=
  match positionPercent with
  | .int percent =>
      if ¬(0 ≤ percent ∧ percent ≤ 100) then
        .error (.tiltProtocolError "Position must be between 0 and 100 percent.")
      else
        match speed with
        | .int speed =>
            if ¬(1 ≤ speed ∧ speed ≤ 100) then
              .error (.tiltProtocolError "Speed must be an integer between 1 and 100.")
            else
              let rawPosition := percent * 10
              let payload := toLittleEndian 2 rawPosition.toNat ++ [UInt8.ofNat speed.toNat]
              encodeApplicationRequest primitives ShadeCommand.setPosition.toInt payload key
                nonce counter messageId
        | _ => .error (.tiltProtocolError "Speed must be an integer between 1 and 100.")
  | _ => .error (.tiltProtocolError "Position must be an integer percent.")

theorem encodeReadRequest_eq_ok {primitives : CryptoPrimitives} {command : Int}
    {key nonce frame : Bytes} {counter messageId : Int}
    (encoded : encodeReadRequest primitives command key nonce counter messageId = .ok frame) :
    encodeApplicationRequest primitives command [] key nonce counter messageId = .ok frame := by
  unfold encodeReadRequest at encoded
  split at encoded
  · cases encoded
  · exact encoded

/-- The payload of a position request: ten times the percentage, and the speed. -/
def positionPayload (percent speed : Int) : Bytes :=
  toLittleEndian 2 (percent * 10).toNat ++ [UInt8.ofNat speed.toNat]

theorem encodePositionRequest_eq_ok {primitives : CryptoPrimitives}
    {positionPercent speed : PythonValue} {key nonce frame : Bytes} {counter messageId : Int}
    (encoded : encodePositionRequest primitives positionPercent key nonce counter messageId
      speed = .ok frame) :
    ∃ percent speedPercent, positionPercent = .int percent ∧ speed = .int speedPercent ∧
      (0 ≤ percent ∧ percent ≤ 100) ∧ (1 ≤ speedPercent ∧ speedPercent ≤ 100) ∧
      encodeApplicationRequest primitives ShadeCommand.setPosition.toInt
        (positionPayload percent speedPercent) key nonce counter messageId = .ok frame := by
  unfold encodePositionRequest at encoded
  split at encoded
  · next percent =>
      split at encoded
      · cases encoded
      · next inRange =>
          split at encoded
          · next speedPercent =>
              split at encoded
              · cases encoded
              · next speedInRange =>
                  exact ⟨percent, speedPercent, rfl, rfl, not_not.mp inRange,
                    not_not.mp speedInRange, encoded⟩
          · cases encoded
  · cases encoded

/-! ## Responses -/

structure ApplicationResponse where
  command : ShadeCommand
  messageId : Int
  counter : Int
  payload : Bytes
  deriving DecidableEq, Repr

/-- The initial counter block of a response: the counter's high bit is set. -/
def responseBlock (nonce header : Bytes) : Bytes :=
  nonce ++ [header.getD 0 0 ||| 0x80, header.getD 1 0] ++ [0, 0]

/-- The checks on a decrypted presentation. -/
def decodePresentation (presentation : Bytes) (expectedCommand : ShadeCommand)
    (expectedMessageId counter : Int) : Raises ApplicationResponse :=
  match presentation with
  | flags :: commandByte :: payload =>
      if flags &&& presentationResponseFlag = 0 then
        .error (.tiltProtocolError "Application message is not marked as a response.")
      else if flags &&& presentationReservedFlags ≠ 0 then
        .error (.tiltProtocolError
          "Application response has reserved presentation flags set.")
      else
        let messageId : Int := (flags &&& 0x0F).toNat
        if messageId ≠ expectedMessageId then
          .error (.tiltProtocolError
            "Application response message id does not match request.")
        else
          match ShadeCommand.ofValue? commandByte with
          | none => .error (.tiltProtocolError "Unknown application response command.")
          | some command =>
              if command = .ack ∧ payload.head? ≠ some expectedCommand.value then
                .error (.tiltProtocolError
                  "Application ACK does not match the requested command.")
              else if command ≠ .ack ∧ command ≠ expectedCommand then
                .error (.tiltProtocolError
                  "Application response command does not match request.")
              else .ok ⟨command, messageId, counter, payload⟩
  | _ => .error (.tiltProtocolError "Application response has no command.")

def decodeApplicationResponse (primitives : CryptoPrimitives) (frame key nonce : Bytes)
    (expectedCommand : ShadeCommand) (expectedMessageId : Int)
    (expectedCounter : Option Int) : Raises ApplicationResponse :=
  match requireKeyAndNonce key nonce with
  | .error error => .error error
  | .ok () =>
      if expectedCommand ∉ runtimeCommands then
        .error (.unsafeCommandError "Expected command is outside the runtime allowlist.")
      else if frame.length < 6 then
        .error (.tiltProtocolError "Encrypted application response is too short.")
      else
        let header := frame.take 2
        let headerValue := ofBigEndian header
        if headerValue &&& cryptoLayerFlag ≠ 0 then
          .error (.tiltProtocolError "Expected an encrypted application-layer response.")
        else
          let counter : Int := (headerValue &&& maxCounter.toNat : Nat)
          match counterHeader counter with
          | .error error => .error error
          | .ok _ =>
              if expectedCounter.isSome ∧ expectedCounter ≠ some counter then
                .error (.tiltProtocolError
                  "Application response counter does not match request.")
              else
                let plaintext :=
                  aesCtr primitives (frame.drop 2) key (responseBlock nonce header)
                match verifyChecksum header plaintext with
                | .error error => .error error
                | .ok presentation =>
                    decodePresentation presentation expectedCommand expectedMessageId counter

def requireResponseCommand (response : ApplicationResponse) (command : ShadeCommand) :
    Raises Unit :=
  if response.command ≠ command then
    .error (.tiltProtocolError ("Expected " ++ command.name ++ " response."))
  else .ok ()

/-- A raw position inside the calibrated range. -/
abbrev RawPosition := {raw : Nat // raw ≤ 1000}

theorem RawPosition.le (rawPosition : RawPosition) : rawPosition.val ≤ 1000 :=
  rawPosition.property

def parseRawPosition (response : ApplicationResponse) : Raises RawPosition :=
  if response.command ≠ .getPosition ∧ response.command ≠ .getStatus then
    .error (.tiltProtocolError "Response does not contain a shade position.")
  else if response.payload.length < 2 then
    .error (.tiltProtocolError "Position response is too short.")
  else
    let rawPosition := ofLittleEndian (response.payload.take 2)
    if inRange : rawPosition ≤ 1000 then .ok ⟨rawPosition, inRange⟩
    else .error (.tiltProtocolError "Shade position is outside the calibrated range.")

def parseStatus (response : ApplicationResponse) : Raises ShadeStatus :=
  match requireResponseCommand response .getStatus with
  | .error error => .error error
  | .ok () =>
      if response.payload.length ≠ 5 then
        .error (.tiltProtocolError "Status response must be exactly five bytes.")
      else
        match parseRawPosition response with
        | .error error => .error error
        | .ok rawPosition =>
            let battery := (response.payload.getD 2 0).toNat
            let calibrated := response.payload.getD 4 0
            if batteryInRange : battery ≤ 100 then
              if calibrated ≠ 0 ∧ calibrated ≠ 1 then
                .error (.tiltProtocolError "Calibrated flag is not boolean.")
              else
                .ok {
                  rawPosition := rawPosition
                  batteryPercent := battery
                  chargeStatus := response.payload.getD 3 0
                  calibrated := calibrated != 0
                  rawPosition_le := RawPosition.le rawPosition
                  batteryPercent_le := batteryInRange }
            else .error (.tiltProtocolError "Battery percentage is outside 0 to 100.")

/-! ## Errors of the codec -/

/-- Instances of `TiltProtocolError` that are no `AuthenticationError`. -/
def PythonException.isMalformed (error : PythonException) : Bool :=
  error.isTiltProtocolError && !error.isAuthenticationError

/-- Every error is allowed. -/
def RaisesOnly {Value : Type} (allowed : PythonException → Prop) (outcome : Raises Value) : Prop :=
  ∀ error, outcome = .error error → allowed error

theorem RaisesOnly.error {Value : Type} {allowed : PythonException → Prop}
    {error : PythonException} (isAllowed : allowed error) :
    RaisesOnly allowed (.error error : Raises Value) := by
  intro other same
  cases same
  exact isAllowed

theorem RaisesOnly.ok {Value : Type} {allowed : PythonException → Prop} (value : Value) :
    RaisesOnly allowed (.ok value) := nofun

theorem RaisesOnly.bind {First Second : Type} {allowed : PythonException → Prop}
    {first : Raises First} {second : First → Raises Second} (firstRaises : RaisesOnly allowed first)
    (secondRaises : ∀ value, first = .ok value → RaisesOnly allowed (second value)) :
    RaisesOnly allowed (first.bind second) := by
  cases first with
  | error error =>
      intro other failed
      cases failed
      exact firstRaises error rfl
  | ok value => exact secondRaises value rfl

/-- The only errors are instances of `TiltProtocolError`. -/
def RaisesProtocolErrors {Value : Type} (outcome : Raises Value) : Prop :=
  ∀ error, outcome = .error error → error.isTiltProtocolError = true

theorem malformed_errors {Value : Type} {outcome : Raises Value}
    (raises : RaisesOnly (·.isMalformed = true) outcome) : RaisesProtocolErrors outcome := by
  intro error failed
  have malformed : error.isMalformed = true := raises error failed
  exact (Bool.and_eq_true_iff.mp malformed).1

theorem requireKeyAndNonce_raises (key nonce : Bytes) :
    RaisesOnly (·.isMalformed = true) (requireKeyAndNonce key nonce) := by
  intro error failed
  unfold requireKeyAndNonce at failed
  repeat' split at failed
  all_goals
    cases failed
    try rfl

theorem counterHeader_raises (counter : Int) :
    RaisesOnly (·.isMalformed = true) (counterHeader counter) := by
  intro error failed
  unfold counterHeader at failed
  split at failed
  · cases failed
  · cases failed
    rfl

theorem messageIdByte_raises (messageId : Int) (response : Bool) :
    RaisesOnly (·.isMalformed = true) (messageIdByte messageId response) := by
  intro error failed
  unfold messageIdByte at failed
  split at failed
  · cases failed
  · cases failed
    rfl

theorem encodeApplicationRequest_raises (primitives : CryptoPrimitives) (command : Int)
    (payload key nonce : Bytes) (counter messageId : Int) : RaisesOnly (·.isMalformed = true)
      (encodeApplicationRequest primitives command payload key nonce counter messageId) := by
  intro error failed
  unfold encodeApplicationRequest at failed
  repeat' split at failed
  all_goals first
    | (cases failed; rfl)
    | skip
  · next refused =>
      cases failed
      exact requireKeyAndNonce_raises key nonce _ refused
  · next refused =>
      cases failed
      exact counterHeader_raises counter _ refused
  · next refused =>
      cases failed
      exact messageIdByte_raises messageId false _ refused
  · cases failed

theorem encodeReadRequest_raises (primitives : CryptoPrimitives) (command : Int)
    (key nonce : Bytes) (counter messageId : Int) : RaisesOnly (·.isMalformed = true)
      (encodeReadRequest primitives command key nonce counter messageId) := by
  intro error failed
  unfold encodeReadRequest at failed
  split at failed
  · cases failed
    rfl
  · exact encodeApplicationRequest_raises _ _ _ _ _ _ _ error failed

theorem encodePositionRequest_raises (primitives : CryptoPrimitives)
    (positionPercent : PythonValue) (key nonce : Bytes) (counter messageId : Int)
    (speed : PythonValue) : RaisesOnly (·.isMalformed = true)
      (encodePositionRequest primitives positionPercent key nonce counter messageId speed) := by
  intro error failed
  unfold encodePositionRequest at failed
  dsimp only at failed
  repeat' split at failed
  all_goals first
    | (cases failed; rfl)
    | exact encodeApplicationRequest_raises _ _ _ _ _ _ _ error failed

theorem verifyChecksum_errors (header framed : Bytes) :
    RaisesProtocolErrors (verifyChecksum header framed) := by
  intro error failed
  unfold verifyChecksum at failed
  split at failed
  · cases failed
    rfl
  · dsimp only at failed
    split at failed
    · cases failed
      rfl
    · cases failed

theorem decodePresentation_raises (presentation : Bytes) (expectedCommand : ShadeCommand)
    (expectedMessageId counter : Int) : RaisesOnly (·.isMalformed = true)
      (decodePresentation presentation expectedCommand expectedMessageId counter) := by
  intro error failed
  unfold decodePresentation at failed
  dsimp only at failed
  repeat' split at failed
  all_goals
    cases failed
    try rfl

theorem decodeApplicationResponse_errors (primitives : CryptoPrimitives)
    (frame key nonce : Bytes) (expectedCommand : ShadeCommand) (expectedMessageId : Int)
    (expectedCounter : Option Int) : RaisesProtocolErrors
      (decodeApplicationResponse primitives frame key nonce expectedCommand expectedMessageId
        expectedCounter) := by
  intro error failed
  unfold decodeApplicationResponse at failed
  dsimp only at failed
  split at failed
  · next refused =>
      cases failed
      exact malformed_errors (requireKeyAndNonce_raises key nonce) _ refused
  repeat' split at failed
  all_goals first
    | (cases failed; rfl)
    | skip
  · next refused =>
      cases failed
      exact malformed_errors (counterHeader_raises _) _ refused
  · next refused =>
      cases failed
      exact verifyChecksum_errors _ _ _ refused
  · exact malformed_errors (decodePresentation_raises _ _ _ _) _ failed

theorem requireResponseCommand_raises (response : ApplicationResponse) (command : ShadeCommand) :
    RaisesOnly (·.isMalformed = true) (requireResponseCommand response command) := by
  intro error failed
  unfold requireResponseCommand at failed
  split at failed
  · cases failed
    rfl
  · cases failed

theorem parseRawPosition_raises (response : ApplicationResponse) :
    RaisesOnly (·.isMalformed = true) (parseRawPosition response) := by
  intro error failed
  unfold parseRawPosition at failed
  dsimp only at failed
  repeat' split at failed
  all_goals
    cases failed
    try rfl

theorem parseStatus_raises (response : ApplicationResponse) :
    RaisesOnly (·.isMalformed = true) (parseStatus response) := by
  intro error failed
  unfold parseStatus at failed
  dsimp only at failed
  repeat' split at failed
  all_goals first
    | (cases failed; rfl)
    | cases failed
  · next refused => exact requireResponseCommand_raises _ _ _ refused
  · next refused => exact parseRawPosition_raises _ _ refused

end SmartblindsBle
