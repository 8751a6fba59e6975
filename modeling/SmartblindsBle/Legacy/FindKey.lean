import SmartblindsBle.Foundation.Hex
import SmartblindsBle.Legacy.KeyScan

/-! # Finding keys

The motors in range, or those with given addresses, are scanned one after the other, and
the first exception other than a missing key ends the run. A motor acknowledges a position
where its key is found, and also where the exception comes from closing the connection.
-/

namespace SmartblindsBle

open Foundation

/-! ## Connections -/

/-- What becomes of a command, and of the connection on which it was sent: the message of the
exception that `client.disconnect()` raises, if it raises one. -/
structure LinkOutcome where
  command : MotorOutcome
  disconnectError : Option String
  deriving DecidableEq, Repr

namespace LinkOutcome

def isRefusal (outcome : LinkOutcome) : Bool := outcome.command.isRefusal

def failure? (outcome : LinkOutcome) : BlindOperation → Option BlindException
  | .disconnect _ => outcome.disconnectError.map .bleakError
  | operation => outcome.command.failure? operation

/-- How `set_tilt` ends: the exception of the clean-up comes first. -/
def result (address : String) (outcome : LinkOutcome) : Except BlindException Unit :=
  match outcome.isRefusal, outcome.disconnectError with
  | false, some message => .error (.bleakError message)
  | _, _ => outcome.command.result address

def leaves (blind : SmartBlind) (outcome : LinkOutcome) : SmartBlind :=
  match outcome.disconnectError with
  | some _ => blind
  | none => outcome.command.leaves blind

def closing (client : BleClient) (outcome : LinkOutcome) : MotorEvent :=
  match outcome.disconnectError with
  | some _ => .disconnectFailed client
  | none => .disconnected client

/-- What a command for position 200 leaves on the motor's side of the link. -/
def events (candidate : UInt8) (client : BleClient) (outcome : LinkOutcome) : List MotorEvent :=
  match outcome.command with
  | .refusesConnection _ => []
  | .keyWriteFails _ =>
      [.connected client, .writeFailed client keyCharHandle [candidate], outcome.closing client]
  | .positionWriteFails _ =>
      [.connected client, .acknowledged client keyCharHandle [candidate],
        .writeFailed client setCharHandle [200], outcome.closing client]
  | .success =>
      [.connected client, .acknowledged client keyCharHandle [candidate],
        .acknowledged client setCharHandle [200], outcome.closing client]

end LinkOutcome

/-- The behaviour of a motor and of the connections to it under each candidate key. -/
abbrev MotorLink : Type := UInt8 → LinkOutcome

/-- The positions that the motor has acknowledged. -/
def BlindWorld.moves (world : BlindWorld) : List Bytes :=
  world.log.filterMap fun event => match event with
    | .acknowledged _ handle payload => if handle = setCharHandle then some payload else none
    | _ => none

namespace MotorLink

variable (link : MotorLink)

/-- The link answers every operation of the only call. -/
def handler : Handler BlindWorld BlindOperation BlindOperation.Reply BlindException :=
  fun operation world =>
    match (link world.blind.candidate).failure? operation with
    | some error => (.error error, world.fails operation)
    | none => (.ok (world.succeeds 0 operation).1, (world.succeeds 0 operation).2)

/-- `keyscan` against a motor. -/
def keyscan (world : BlindWorld) : Except BlindException Bytes × BlindWorld :=
  SmartBlind.keyscan.evaluate link.handler world

/-- The connections to the motor can always be closed. -/
def ofMotor (motor : Motor) : MotorLink := fun candidate => ⟨motor candidate, none⟩

theorem ofMotor_keyscan (motor : Motor) (world : BlindWorld) :
    (ofMotor motor).keyscan world = motor.keyscan world := by
  have same : (ofMotor motor).handler = motor.handler := by
    funext operation world
    cases operation with
    | disconnect client => cases outcome : motor world.blind.candidate <;>
        simp [handler, Motor.handler, ofMotor, LinkOutcome.failure?, MotorOutcome.failure?, outcome]
    | _ => rfl
  rw [keyscan, same, Motor.keyscan]

/-! ## One scan -/

/-- The first candidate that is not refused. -/
def firstAccepted (candidates : List UInt8) : Option UInt8 :=
  candidates.find? fun candidate => !(link candidate).isRefusal

theorem setTilt_world (world : BlindWorld) (candidate : UInt8)
    (holds : world.blind.key = [candidate]) :
    (SmartBlind.setTilt positionMax).evaluate link.handler world =
      ((link candidate).result world.blind.address,
        { blind := (link candidate).leaves world.blind
          log := world.log ++ (link candidate).events candidate ⟨0, world.connections⟩ }) := by
  have otherHandle : keyCharHandle ≠ setCharHandle := by decide
  have position : UInt8.ofNat positionMax.toNat = 200 := rfl
  rcases world with ⟨⟨address, _, _⟩, log⟩
  cases holds
  rw [SmartBlind.setTilt_inRange (by decide), SmartBlind.write]
  rcases outcome : link candidate with ⟨command, disconnectError⟩
  cases command <;> cases disconnectError <;>
    simp [Coroutine.evaluate_bind, Coroutine.evaluate_tryCatch, Coroutine.evaluate_tryFinally,
      SmartBlind.await, SmartBlind.self, SmartBlind.modify, handler, outcome, otherHandle,
      position, SmartBlind.candidate, LinkOutcome.failure?, MotorOutcome.failure?,
      BlindWorld.succeeds, BlindWorld.fails, BlindWorld.record, LinkOutcome.events,
      LinkOutcome.closing, LinkOutcome.leaves, MotorOutcome.leaves, LinkOutcome.result,
      LinkOutcome.isRefusal, MotorOutcome.isRefusal, MotorOutcome.result,
      BlindException.isOrdinary, BlindException.text]

/-- How a scan ends under the first candidate that is not refused. -/
def scanEnd (blind : SmartBlind) (candidate : UInt8) (outcome : LinkOutcome) :
    Except BlindException Bytes :=
  (outcome.result blind.address).map fun _ => [candidate]

/-- A scan is a single command, under the first candidate that is not refused. -/
theorem scanCandidates_world (candidates : List UInt8) (world : BlindWorld) :
    (SmartBlind.scanCandidates candidates).evaluate link.handler world =
      match link.firstAccepted candidates with
      | none =>
          (.error (.keyNotFound ("No working key for " ++ world.blind.address)),
            { world with blind.key := (candidates.map ([·])).getLastD world.blind.key })
      | some candidate =>
          (scanEnd world.blind candidate (link candidate),
            { blind := (link candidate).leaves { world.blind with key := [candidate] }
              log := world.log ++
                (link candidate).events candidate ⟨0, world.connections⟩ }) := by
  induction candidates generalizing world with
  | nil => rfl
  | cons candidate candidates induction =>
      have tried := setTilt_world link { world with blind.key := [candidate] } candidate rfl
      simp only [SmartBlind.scanCandidates, SmartBlind.modify, Coroutine.evaluate_bind,
        Coroutine.evaluate_tryCatch, Coroutine.evaluate_modify, tried, firstAccepted,
        List.find?_cons]
      rcases outcome : link candidate with ⟨command, disconnectError⟩
      cases command with
      | refusesConnection message =>
          have later := induction { world with blind.key := [candidate] }
          have unchanged : (LinkOutcome.mk (.refusesConnection message) disconnectError).leaves
                { world.blind with key := [candidate] } =
              { world.blind with key := [candidate] } := by
            cases disconnectError <;> rfl
          simp only [LinkOutcome.result, LinkOutcome.isRefusal, MotorOutcome.result,
            BlindException.isConnectionFailed, if_true, MotorOutcome.isRefusal, Bool.not_true,
            unchanged, LinkOutcome.events, List.append_nil, Coroutine.pure_eq_done,
            Coroutine.evaluate_done]
          rw [List.map_cons, List.getLastD_cons]
          exact later
      | keyWriteFails message =>
          simp only [LinkOutcome.isRefusal, MotorOutcome.isRefusal, Bool.not_false, outcome]
          cases disconnectError <;> rfl
      | positionWriteFails message =>
          simp only [LinkOutcome.isRefusal, MotorOutcome.isRefusal, Bool.not_false, outcome]
          cases disconnectError <;> rfl
      | success =>
          simp only [LinkOutcome.isRefusal, MotorOutcome.isRefusal, Bool.not_false, outcome]
          cases disconnectError <;> rfl

end MotorLink

/-! ## The command -/

/-- A device in range, and how its motor and the connections to it behave. -/
structure MotorDevice where
  name : Option String
  address : String
  link : MotorLink

/-- What the scanner of the BLE stack answers. A device that is looked up again may have gone,
or its motor may behave in another way; `lookup` numbers the lookups of a run. -/
structure Scanner where
  findDeviceByAddress :
    (lookup : Nat) → (address : String) → Except BlindException (Option MotorDevice)
  devices : Except BlindException (List MotorDevice)

def deviceName : String := "SmartBlind_DFU"

def Scanner.discover (scanner : Scanner) : Except BlindException (List MotorDevice) :=
  scanner.devices.map fun devices => devices.filter fun device => device.name.getD "" = deviceName

/-- A line on one of the two streams. -/
inductive Printed
  | error (text : String)
  | output (text : String)
  deriving DecidableEq, Repr

/-- What a part of the command does. -/
structure FindKeyRun where
  printed : List Printed
  /-- The blinds that have been scanned, as the scan leaves them. -/
  scanned : List BlindWorld
  raised : Option BlindException

namespace FindKeyRun

def nothing : FindKeyRun := ⟨[], [], none⟩

def print (line : Printed) : FindKeyRun := ⟨[line], [], none⟩

def raise (error : BlindException) : FindKeyRun := ⟨[], [], some error⟩

/-- The second part runs unless the first one raises an exception. -/
def andThen (first second : FindKeyRun) : FindKeyRun :=
  if first.raised.isSome then first
  else ⟨first.printed ++ second.printed, first.scanned ++ second.scanned, second.raised⟩

def forEach {Item : Type} (visit : Item → FindKeyRun) : List Item → FindKeyRun
  | [] => nothing
  | item :: items => (visit item).andThen (forEach visit items)

/-- What is printed on the standard output. -/
def output (run : FindKeyRun) : List String :=
  run.printed.filterMap fun line => match line with
    | .output text => some text
    | .error _ => none

end FindKeyRun

/-- `_keyscan_device`. -/
def keyscanDevice (device : MotorDevice) : FindKeyRun :=
  let ended := device.link.keyscan (.initial device.address [0])
  let scan : FindKeyRun := {
    printed := [.error ("[" ++ device.address ++
      "] scanning key 0x00..0xFF (motor will tilt fully)...")]
    scanned := [ended.2]
    raised := none }
  scan.andThen
    (match ended.1 with
    | .ok key => .print (.output (device.address ++ " = " ++ hexString key))
    | .error (.keyNotFound _) => .print (.error ("[" ++ device.address ++ "] keyscan failed"))
    | .error error => .raise error)

/-- `_keyscan_address`. -/
def keyscanAddress (scanner : Scanner) (lookup : Nat) (address : String) : FindKeyRun :=
  (FindKeyRun.print (.error ("[" ++ address ++ "] locating device..."))).andThen
    (match scanner.findDeviceByAddress lookup address with
    | .ok (some device) => keyscanDevice device
    | .ok none => .print (.error ("[" ++ address ++ "] not found"))
    | .error error => .raise error)

inductive ScanVerdict
  | key (candidate : UInt8)
  | noKey
  /-- A write fails. -/
  | failed (error : BlindException)
  /-- The position is acknowledged, and the connection cannot be closed. -/
  | unclosed (error : BlindException)

/-- The verdict of a candidate, if it is the first that is not refused. -/
def LinkOutcome.verdict (candidate : UInt8) : LinkOutcome → ScanVerdict
  | ⟨.success, none⟩ => .key candidate
  | ⟨.success, some message⟩ => .unclosed (.bleakError message)
  | ⟨.keyWriteFails message, disconnectError⟩
  | ⟨.positionWriteFails message, disconnectError⟩ =>
      .failed (.bleakError (disconnectError.getD message))
  | ⟨.refusesConnection _, _⟩ => .noKey

def MotorLink.verdict (link : MotorLink) : ScanVerdict :=
  match link.firstAccepted SmartBlind.keyCandidates with
  | none => .noKey
  | some candidate => (link candidate).verdict candidate

namespace ScanVerdict

def error? : ScanVerdict → Option BlindException
  | .failed error | .unclosed error => some error
  | _ => none

def keyLine (address : String) : ScanVerdict → Option String
  | .key candidate => some (address ++ " = " ++ hexString [candidate])
  | _ => none

/-- The positions that the motor acknowledges. -/
def moves : ScanVerdict → List Bytes
  | .key _ | .unclosed _ => [[200]]
  | _ => []

end ScanVerdict

theorem keyscanDevice_verdict (device : MotorDevice) :
    let run := keyscanDevice device
    let verdict := device.link.verdict
    run.raised = verdict.error? ∧
      run.output = (verdict.keyLine device.address).toList ∧
      run.scanned.map (fun world => (world.blind.address, world.moves)) =
        [(device.address, verdict.moves)] := by
  intro run verdict
  have scanned := device.link.scanCandidates_world SmartBlind.keyCandidates
    (.initial device.address [0])
  have whole : device.link.keyscan (.initial device.address [0]) =
    (SmartBlind.scanCandidates SmartBlind.keyCandidates).evaluate device.link.handler
      (.initial device.address [0]) := rfl
  rw [← whole] at scanned
  simp only [run, verdict, keyscanDevice, MotorLink.verdict, scanned]
  cases accepted : device.link.firstAccepted SmartBlind.keyCandidates with
  | none => exact ⟨rfl, rfl, rfl⟩
  | some candidate =>
      rcases outcome : device.link candidate with ⟨command, disconnectError⟩
      cases command with
      | refusesConnection message =>
          have notRefused := List.find?_some accepted
          rw [outcome] at notRefused
          cases notRefused
      | keyWriteFails message =>
          simp only [outcome]
          cases disconnectError <;> exact ⟨rfl, rfl, rfl⟩
      | positionWriteFails message =>
          simp only [outcome]
          cases disconnectError <;> exact ⟨rfl, rfl, rfl⟩
      | success =>
          simp only [outcome]
          cases disconnectError <;> exact ⟨rfl, rfl, rfl⟩

namespace MotorLink

variable (link : MotorLink)

end MotorLink

/-! ## The run -/

/-- The items up to the first at which a loop stops, with it. -/
def throughFirst {Item : Type} (stops : Item → Bool) : List Item → List Item
  | [] => []
  | item :: items => if stops item then [item] else item :: throughFirst stops items

/-- What is to be scanned: a device, nothing, or an exception of the scanner. -/
abbrev ScanTarget := Except BlindException (Option MotorDevice)

namespace ScanTarget

def error? : ScanTarget → Option BlindException
  | .error error => some error
  | .ok none => none
  | .ok (some device) => device.link.verdict.error?

def keyLine? : ScanTarget → Option String
  | .ok (some device) => device.link.verdict.keyLine device.address
  | _ => none

/-- The address of the motor and the positions that it acknowledges. -/
def moved? : ScanTarget → Option (String × List Bytes)
  | .ok (some device) => some (device.address, device.link.verdict.moves)
  | _ => none

end ScanTarget

def Scanner.targets (scanner : Scanner) (addresses : List String) : List ScanTarget :=
  if addresses.isEmpty then
    match scanner.discover with
    | .ok devices => devices.map fun device => .ok (some device)
    | .error error => [.error error]
  else addresses.zipIdx.map fun asked => scanner.findDeviceByAddress asked.2 asked.1

namespace FindKeyRun

/-- The targets that a run comes to: up to the first that fails, with it. -/
def reached (targets : List ScanTarget) : List ScanTarget :=
  throughFirst (fun target => target.error?.isSome) targets

/-- The run does with each target what its motor admits, until one fails. -/
structure Scans (run : FindKeyRun) (targets : List ScanTarget) : Prop where
  raised : run.raised = targets.findSome? ScanTarget.error?
  output : run.output = (reached targets).filterMap ScanTarget.keyLine?
  moved : run.scanned.map (fun world => (world.blind.address, world.moves)) =
    (reached targets).filterMap ScanTarget.moved?

theorem Scans.after_error {run : FindKeyRun} {targets : List ScanTarget}
    (scans : run.Scans targets) (text : String) :
    ((print (.error text)).andThen run).Scans targets :=
  ⟨scans.raised, scans.output, scans.moved⟩

theorem Scans.raise (error : BlindException) : (raise error).Scans [.error error] :=
  ⟨rfl, rfl, rfl⟩

theorem reached_singleton (target : ScanTarget) : reached [target] = [target] := by
  rw [reached, throughFirst]
  split
  · rfl
  · rfl

theorem Scans.device (device : MotorDevice) :
    (keyscanDevice device).Scans [.ok (some device)] := by
  rcases keyscanDevice_verdict device with ⟨raised, output, moved⟩
  constructor
  · rw [raised, List.findSome?_singleton]
    rfl
  · rw [output, reached_singleton, List.filterMap_cons]
    simp only [ScanTarget.keyLine?]
    cases device.link.verdict.keyLine device.address with
    | none => rfl
    | some line => rfl
  · rw [moved, reached_singleton]
    rfl

theorem Scans.address (scanner : Scanner) (lookup : Nat) (address : String) :
    (keyscanAddress scanner lookup address).Scans
      [scanner.findDeviceByAddress lookup address] := by
  rw [keyscanAddress]
  apply Scans.after_error
  cases scanner.findDeviceByAddress lookup address with
  | error error => exact .raise error
  | ok found =>
      cases found with
      | none => exact ⟨rfl, rfl, rfl⟩
      | some device => exact .device device

/-- A loop over items with one target each. -/
theorem Scans.forEach {Item : Type} {visit : Item → FindKeyRun} {target : Item → ScanTarget}
    (each : ∀ item, (visit item).Scans [target item]) (items : List Item) :
    (forEach visit items).Scans (items.map target) := by
  induction items with
  | nil => exact ⟨rfl, rfl, rfl⟩
  | cons item items induction =>
      have first := each item
      have raised := first.raised
      rw [List.findSome?_singleton] at raised
      have output := first.output
      have moved := first.moved
      rw [reached_singleton] at output moved
      rw [FindKeyRun.forEach, andThen, raised, List.map_cons]
      cases failed : (target item).error? with
      | some error =>
          have stops : reached (target item :: items.map target) = [target item] := by
            rw [reached, throughFirst, failed]
            rfl
          constructor
          · rw [List.findSome?_cons, failed]
            exact raised.trans failed
          · rw [stops]
            exact output
          · rw [stops]
            exact moved
      | none =>
          have goesOn : reached (target item :: items.map target) =
              [target item] ++ reached (items.map target) := by
            rw [reached, throughFirst, failed]
            rfl
          constructor
          · rw [List.findSome?_cons, failed]
            exact induction.raised
          · rw [goesOn, List.filterMap_append, ← output, ← induction.output]
            exact List.filterMap_append
          · rw [goesOn, List.filterMap_append, ← moved, ← induction.moved]
            exact List.map_append

end FindKeyRun

end SmartblindsBle
