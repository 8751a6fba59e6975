import SmartblindsBle.Foundation.Bytes
import SmartblindsBle.Foundation.Coroutine

/-! # The legacy tilt motors

Each command of a `SmartBlind` connects to the motor, writes the key, writes the
position and disconnects again. The motor reports nothing, so the blind keeps
the position it has last set.
-/

namespace SmartblindsBle

open Foundation

/-! ## Constants -/

def keyCharHandle : Nat := 0x001B

def setCharHandle : Nat := 0x001F

def positionMin : Int := 0

def positionMax : Int := 200

def keyScanFirst : Nat := 0x00

def keyScanLast : Nat := 0xFF

/-! ## Exceptions -/

/-- The library's exceptions, those of the BLE stack, and the cancellation of
the calling task. -/
inductive BlindException
  | connectionFailed (message : String)
  | keyNotFound (message : String)
  | invalidPosition (message : String)
  | bleakError (message : String)
  | cancelledError
  deriving DecidableEq, Repr

namespace BlindException

/-- Instances of `Exception`, which `except Exception` catches. -/
def isOrdinary : BlindException → Bool
  | .cancelledError => false
  | _ => true

/-- Instances of `ConnectionFailed`. -/
def isConnectionFailed : BlindException → Bool
  | .connectionFailed _ => true
  | _ => false

/-- `str(exc)`. -/
def text : BlindException → String
  | .connectionFailed message | .keyNotFound message | .invalidPosition message
  | .bleakError message => message
  | .cancelledError => ""

end BlindException

/-! ## The blind and its motor -/

/-- The fields of `SmartBlind`; of its device only the address is used. -/
structure SmartBlind where
  address : String
  key : Bytes
  position : Int
  deriving DecidableEq, Repr

/-- A connection: the call that established it and its number among all
connections to the motor. -/
structure BleClient where
  call : Nat
  number : Nat
  deriving DecidableEq, Repr

/-- What the motor's side of the link has seen. -/
inductive MotorEvent
  | connected (client : BleClient)
  | acknowledged (client : BleClient) (handle : Nat) (payload : Bytes)
  | writeFailed (client : BleClient) (handle : Nat) (payload : Bytes)
  | disconnected (client : BleClient)
  | disconnectFailed (client : BleClient)
  deriving DecidableEq, Repr

/-- A blind, and what has happened on its connections so far. -/
structure BlindWorld where
  blind : SmartBlind
  log : List MotorEvent
  deriving DecidableEq, Repr

/-- A blind whose motor has not been connected to. -/
def BlindWorld.initial (address : String) (key : Bytes) : BlindWorld where
  blind := { address := address, key := key, position := 0 }
  log := []

def BlindWorld.record (world : BlindWorld) (event : MotorEvent) : BlindWorld :=
  { world with log := world.log ++ [event] }

@[simp] theorem BlindWorld.record_blind (world : BlindWorld) (event : MotorEvent) :
    (world.record event).blind = world.blind := rfl

@[simp] theorem BlindWorld.record_log (world : BlindWorld) (event : MotorEvent) :
    (world.record event).log = world.log ++ [event] := rfl

/-- What a call awaits. `begin` is the first step of its task. -/
inductive BlindOperation
  | begin
  | establishConnection
  | writeGattChar (client : BleClient) (handle : Nat) (payload : Bytes)
  | disconnect (client : BleClient)

abbrev BlindOperation.Reply : BlindOperation → Type
  | .establishConnection => BleClient
  | _ => Unit

/-- How many connections have been established. -/
def BlindWorld.connections (world : BlindWorld) : Nat :=
  world.log.countP fun event => match event with
    | .connected _ => true
    | _ => false

/-- An operation of the numbered call that succeeds. -/
def BlindWorld.succeeds (world : BlindWorld) (call : Nat) :
    (operation : BlindOperation) → operation.Reply × BlindWorld
  | .begin => ((), world)
  | .establishConnection =>
      let client : BleClient := ⟨call, world.connections⟩
      (client, world.record (.connected client))
  | .writeGattChar client handle payload =>
      ((), world.record (.acknowledged client handle payload))
  | .disconnect client => ((), world.record (.disconnected client))

/-- An operation that raises an exception. -/
def BlindWorld.fails (world : BlindWorld) : BlindOperation → BlindWorld
  | .begin => world
  | .establishConnection => world
  | .writeGattChar client handle payload => world.record (.writeFailed client handle payload)
  | .disconnect client => world.record (.disconnectFailed client)

/-! ## The methods -/

/-- A method of a blind. -/
abbrev BlindAsync (Result : Type) : Type :=
  Coroutine BlindWorld BlindOperation BlindOperation.Reply BlindException Result

namespace SmartBlind

open Coroutine (current)

def await (operation : BlindOperation) : BlindAsync operation.Reply :=
  Coroutine.perform operation

/-- The current blind. -/
def self : BlindAsync SmartBlind := do
  let world ← current
  pure world.blind

def modify (transform : SmartBlind → SmartBlind) : BlindAsync Unit :=
  Coroutine.modify fun world => { world with blind := transform world.blind }

/-- `_write`. -/
def write (handle : Nat) (payload : Bytes) : BlindAsync Unit := do
  let client ← tryCatch (await .establishConnection) (fun error =>
    if error.isOrdinary then do
      let blind ← self
      throw (.connectionFailed
        ("Could not connect to " ++ blind.address ++ ": " ++ error.text))
    else throw error)
  Foundation.tryFinally
    (do
      let blind ← self
      await (.writeGattChar client keyCharHandle blind.key)
      await (.writeGattChar client handle payload))
    (await (.disconnect client))

/-- `set_tilt`; `bytes([position])` cannot fail within the range. -/
def setTilt (position : Int) : BlindAsync Unit := do
  if ¬ (positionMin ≤ position ∧ position ≤ positionMax) then
    throw (.invalidPosition (toString position ++ " outside " ++ toString positionMin ++
      ".." ++ toString positionMax))
  write setCharHandle [UInt8.ofNat position.toNat]
  modify fun blind => { blind with position := position }

theorem setTilt_inRange {position : Int}
    (inRange : positionMin ≤ position ∧ position ≤ positionMax) :
    setTilt position = write setCharHandle [UInt8.ofNat position.toNat] >>= fun _ =>
      modify fun blind => { blind with position := position } := by
  rw [setTilt, if_neg (not_not.mpr inRange)]

theorem setTilt_outOfRange {position : Int}
    (outOfRange : ¬ (positionMin ≤ position ∧ position ≤ positionMax)) :
    setTilt position = throw (.invalidPosition (toString position ++ " outside " ++
      toString positionMin ++ ".." ++ toString positionMax)) := by
  rw [setTilt, if_pos outOfRange]
  rfl

/-- The loop of `keyscan` over the candidates that are left. -/
def scanCandidates : List UInt8 → BlindAsync Bytes
  | [] => do
      let blind ← self
      throw (.keyNotFound ("No working key for " ++ blind.address))
  | candidate :: candidates => do
      modify fun blind => { blind with key := [candidate] }
      let written ← tryCatch
        (do
          setTilt positionMax
          pure true)
        (fun error => if error.isConnectionFailed then pure false else throw error)
      if written then do
        let blind ← self
        pure blind.key
      else scanCandidates candidates

/-- `range(KEY_SCAN_FIRST, KEY_SCAN_LAST + 1)`. -/
def keyCandidates : List UInt8 :=
  (List.range' keyScanFirst (keyScanLast + 1 - keyScanFirst)).map UInt8.ofNat

def keyscan : BlindAsync Bytes := scanCandidates keyCandidates

end SmartBlind

end SmartblindsBle
