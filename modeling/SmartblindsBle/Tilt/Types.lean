import SmartblindsBle.Foundation.Bytes

/-! # Values shared by the Tilt codec and transport

The two command alphabets, a shade's status, and the exceptions that the codec,
the transport and the BLE client raise.
-/

namespace SmartblindsBle

open Foundation

/-! ## Python arguments

`isinstance` guards tell apart integers, Booleans (which are integers in
Python) and everything else. -/

inductive PythonValue
  | int (value : Int)
  | bool (value : Bool)
  | other
  deriving DecidableEq, Repr

/-! ## Commands -/

/-- Commands of the plaintext handshake layer. -/
inductive CryptoCommand
  | ack
  | requestProtocolVersions
  | selectProtocolVersion
  | requestNonce
  deriving DecidableEq, Repr

def CryptoCommand.value : CryptoCommand → UInt8
  | .ack => 0x01
  | .requestProtocolVersions => 0x02
  | .selectProtocolVersion => 0x03
  | .requestNonce => 0x0A

/-- The enumeration lookup `CryptoCommand(value)`. -/
def CryptoCommand.ofValue? (value : UInt8) : Option CryptoCommand :=
  [CryptoCommand.ack, .requestProtocolVersions, .selectProtocolVersion, .requestNonce].find?
    (fun command => command.value = value)

/-- Commands of the encrypted application layer. -/
inductive ShadeCommand
  | ack
  | getVersion
  | getName
  | getStatus
  | getPosition
  | setPosition
  | getBattery
  deriving DecidableEq, Repr

def ShadeCommand.value : ShadeCommand → UInt8
  | .ack => 0x01
  | .getVersion => 0x04
  | .getName => 0x05
  | .getStatus => 0x10
  | .getPosition => 0x12
  | .setPosition => 0x13
  | .getBattery => 0x16

/-- The enumeration lookup `ShadeCommand(value)`. -/
def ShadeCommand.ofValue? (value : UInt8) : Option ShadeCommand :=
  [ShadeCommand.ack, .getVersion, .getName, .getStatus, .getPosition, .setPosition,
    .getBattery].find? (fun command => command.value = value)

/-- The attribute `name` of an enumeration member. -/
def ShadeCommand.name : ShadeCommand → String
  | .ack => "ACK"
  | .getVersion => "GET_VERSION"
  | .getName => "GET_NAME"
  | .getStatus => "GET_STATUS"
  | .getPosition => "GET_POSITION"
  | .setPosition => "SET_POSITION"
  | .getBattery => "GET_BATTERY"

/-- A member of an `IntEnum` is the integer of its value. -/
def ShadeCommand.toInt (command : ShadeCommand) : Int := command.value.toNat

def readCommands : List ShadeCommand :=
  [.getVersion, .getName, .getStatus, .getPosition, .getBattery]

def writeCommands : List ShadeCommand := [.setPosition]

def runtimeCommands : List ShadeCommand := readCommands ++ writeCommands

def supportedCryptoProtocols : List UInt8 := [2, 1]

@[simp] theorem CryptoCommand.ofValue?_value (command : CryptoCommand) :
    CryptoCommand.ofValue? command.value = some command := by
  cases command <;> rfl

@[simp] theorem ShadeCommand.ofValue?_value (command : ShadeCommand) :
    ShadeCommand.ofValue? command.value = some command := by
  cases command <;> rfl

theorem ShadeCommand.ofValue?_eq_some {value : UInt8} {command : ShadeCommand}
    (found : ShadeCommand.ofValue? value = some command) : command.value = value := by
  simpa using List.find?_some found

theorem CryptoCommand.ofValue?_eq_some {value : UInt8} {command : CryptoCommand}
    (found : CryptoCommand.ofValue? value = some command) : command.value = value := by
  simpa using List.find?_some found

/-! ## Shade status -/

/-- A status as `parse_status` builds it: the raw position and the battery
level lie in the ranges that the parser enforces. -/
structure ShadeStatus where
  rawPosition : Nat
  batteryPercent : Nat
  chargeStatus : UInt8
  calibrated : Bool
  rawPosition_le : rawPosition ≤ 1000
  batteryPercent_le : batteryPercent ≤ 100
  deriving DecidableEq, Repr

/-- `round(raw / 10)`: the nearest percent, ties to the even one. -/
def roundTenths (raw : Nat) : Nat :=
  if raw % 10 < 5 then raw / 10
  else if 5 < raw % 10 then raw / 10 + 1
  else if raw / 10 % 2 = 0 then raw / 10
  else raw / 10 + 1

def ShadeStatus.positionPercent (status : ShadeStatus) : Int := roundTenths status.rawPosition

/-! ## Exceptions -/

/-- The exceptions that can reach the transport. Those without a message are
raised by the event loop, the queues or the BLE client; `other` stands for any
further ordinary exception of the BLE client. -/
inductive PythonException
  | tiltProtocolError (message : String)
  | unsafeCommandError (message : String)
  | authenticationError (message : String)
  | tiltBleError (message : String)
  | tiltBleTimeout (message : String)
  | ambiguousPositionWrite (message : String)
  | positionVerificationPending (message : String) (status : ShadeStatus)
  | tiltBleCleanupError (message : String)
  | bleakError (message : String)
  | timeoutError
  | queueFull
  | cancelledError
  | other (name : String)
  deriving DecidableEq, Repr

namespace PythonException

/-- Instances of `Exception`, which `except Exception` catches. -/
def isOrdinary : PythonException → Bool
  | .cancelledError => false
  | _ => true

/-- Instances of `TiltProtocolError`. -/
def isTiltProtocolError : PythonException → Bool
  | .tiltProtocolError _ | .unsafeCommandError _ | .authenticationError _ => true
  | _ => false

/-- Instances of `AuthenticationError`. -/
def isAuthenticationError : PythonException → Bool
  | .authenticationError _ => true
  | _ => false

/-- Instances of `TiltBleError`. -/
def isTiltBleError : PythonException → Bool
  | .tiltBleError _ | .tiltBleTimeout _ | .ambiguousPositionWrite _
  | .positionVerificationPending _ _ => true
  | _ => false

/-- Instances of `TiltBleTimeout`. -/
def isTiltBleTimeout : PythonException → Bool
  | .tiltBleTimeout _ => true
  | _ => false

/-- Instances of `AmbiguousPositionWrite`. -/
def isAmbiguousPositionWrite : PythonException → Bool
  | .ambiguousPositionWrite _ | .positionVerificationPending _ _ => true
  | _ => false

/-- Instances of `BleakError`. -/
def isBleakError : PythonException → Bool
  | .bleakError _ => true
  | _ => false

theorem isOrdinary_of_isTiltProtocolError {error : PythonException}
    (isProtocol : error.isTiltProtocolError = true) : error.isOrdinary = true := by
  cases error <;> first | rfl | cases isProtocol

end PythonException

/-- What `except Exception` binds. -/
abbrev OrdinaryException := {error : PythonException // error.isOrdinary = true}

/-- The codec's results: a value or the exception it raises. -/
abbrev Raises (Value : Type) := Except PythonException Value

/-- `raw_position_to_percent`; a Boolean is refused although it is an `int`. -/
def rawPositionToPercent : PythonValue → Raises Int
  | .int raw =>
      if 0 ≤ raw ∧ raw ≤ 1000 then .ok (roundTenths raw.toNat)
      else .error (.tiltProtocolError "Raw position must be between 0 and 1000.")
  | _ => .error (.tiltProtocolError "Raw position must be an integer.")

/-- The property `position_percent` of a parsed status never raises. -/
theorem ShadeStatus.rawPositionToPercent_rawPosition (status : ShadeStatus) :
    rawPositionToPercent (.int status.rawPosition) = .ok status.positionPercent := by
  have bound := status.rawPosition_le
  rw [rawPositionToPercent, if_pos (by omega), positionPercent, Int.toNat_natCast]

end SmartblindsBle
