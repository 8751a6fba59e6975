import SmartblindsBle.Tilt.Session

/-! # The client

`TiltShadeClient` opens one short session for each call. The frame of a call,
`_run_session` and the clean-up it ends with, is written over any kind of task;
here it is instantiated for one call that nobody cancels.
-/

namespace SmartblindsBle

open Foundation

/-! ## The frame of a call -/

/-- What `_run_session` and its clean-up use. -/
structure SessionPrimitives (m : Type → Type) where
  acquireBleLock : m Unit
  releaseBleLock : m Unit
  /-- The call of `client_factory`, awaited where it is asynchronous. -/
  clientFactory : m Unit
  isConnected : m Bool
  connect : m Unit
  disconnect : m Unit
  /-- `session = None`. -/
  forgetSession : m Unit
  createSession : m Unit
  /-- `session is not None`. -/
  hasSession : m Bool
  startNotify : m Unit
  startWorker : m Unit
  /-- Detach the worker and cancel it; whether there was one. -/
  takeWorker : m Bool
  awaitWorker : m Unit
  stopNotify : m Unit
  authenticate : m Unit
  /-- `_await_cancellation_safe_cleanup`. -/
  awaitCancellationSafeCleanup : m Unit → m Unit

namespace SessionPrimitives

variable {m : Type → Type} [Monad m] [MonadExcept PythonException m]
variable (primitives : SessionPrimitives m)

/-- `_TiltBleSession.start`. -/
def start : m Unit := do
  primitives.startNotify
  primitives.startWorker

/-- `_TiltBleSession.stop`. -/
def stop : m Unit := do
  let worker ← primitives.takeWorker
  if worker then
    tryCatch primitives.awaitWorker (fun error =>
      if error = .cancelledError then pure () else throw error)
  tryCatch primitives.stopNotify (fun error =>
    if error.isOrdinary then pure () else throw error)

/-- `_close_ble_client`. -/
def closeBleClient (session : Bool) : m Unit := do
  tryFinally (if session then primitives.stop else pure ())
    (tryCatch primitives.disconnect (fun error =>
      if error.isOrdinary then do
        let connected ← primitives.isConnected
        if connected then throw (.tiltBleCleanupError "Tilt BLE client disconnect failed.")
      else throw error))
  let connected ← primitives.isConnected
  if connected then
    throw (.tiltBleCleanupError "Tilt BLE client remained connected after disconnect.")

/-- The body of the `try` in `_run_session`. -/
def sessionBody {Result : Type} (shadeId : String) (operation : m Result) : m Result := do
  let connected ← primitives.isConnected
  if connected = false then primitives.connect
  let connected ← primitives.isConnected
  if connected = false then
    throw (.tiltBleError ("Unable to connect to configured shade " ++ shadeId ++ "."))
  primitives.createSession
  primitives.start
  primitives.authenticate
  operation

/-- `_run_session`. -/
def runSession {Result : Type} (shadeId : String) (operation : m Result) : m Result := do
  primitives.acquireBleLock
  tryFinally
    (do
      primitives.clientFactory
      primitives.forgetSession
      tryFinally (primitives.sessionBody shadeId operation)
        (do
          let session ← primitives.hasSession
          primitives.awaitCancellationSafeCleanup (primitives.closeBleClient session)))
    primitives.releaseBleLock

end SessionPrimitives

/-! ## One call -/

open TiltBleSession (await record modify)

/-- The primitives of a call that nobody cancels: the clean-up is awaited to its
end, and no other call holds the lock when it is acquired. -/
def callPrimitives (primitives : CryptoPrimitives) (key : PairingKey) :
    SessionPrimitives (Coroutine World Operation Operation.Reply PythonException) where
  acquireBleLock := await .acquireBleLock
  releaseBleLock := pure ()
  clientFactory := await .clientFactory
  isConnected := await .isConnected
  connect := await .connect
  disconnect := await .disconnect
  forgetSession := Coroutine.modify fun world => { world with hasSession := false }
  createSession := do
    Coroutine.modify fun world => { world with session := .initial, hasSession := true }
    record .sessionCreated
  hasSession := do
    let world ← Coroutine.current
    pure world.hasSession
  startNotify := await .startNotify
  startWorker := modify fun session => { session with worker := some .waiting }
  takeWorker := do
    let world ← Coroutine.current
    modify fun session => { session with worker := none }
    pure world.session.worker.isSome
  awaitWorker := await .awaitWorker
  stopNotify := await .stopNotify
  authenticate := TiltBleSession.authenticate primitives key
  awaitCancellationSafeCleanup := fun cleanup => cleanup

/-- The world before the first call of a client. -/
def World.initial : World where
  session := .initial
  hasSession := false
  history := []

/-- The world after a session object was created and started. -/
def World.started : World where
  session := { TiltBleSession.initial with worker := some .waiting }
  hasSession := true
  history := []

/-- The fields of `TiltShadeClient` that decide what a call does. -/
structure TiltShadeClient where
  shadeId : String
  pairingKey : PairingKey
  allowPositionWrites : Bool

def statusReadRetryDelaySeconds : Rat := 1 / 2

/-- `_moved_toward`. -/
def movedToward (before after : ShadeStatus) (targetPercent : Int) : Bool :=
  if before.positionPercent < targetPercent then
    decide (before.positionPercent < after.positionPercent)
  else decide (after.positionPercent < before.positionPercent)

namespace TiltShadeClient

/-- `TiltShadeClient.__init__`. -/
def init (mac : String) (pairingKey : Bytes) (shadeId : Option String)
    (allowPositionWrites : Bool) : Raises TiltShadeClient :=
  if length_eq : pairingKey.length = 32 then
    .ok {
      shadeId :=
        match shadeId with
        | some shadeId => if shadeId = "" then mac else shadeId
        | none => mac
      pairingKey := ⟨pairingKey, length_eq⟩
      allowPositionWrites := allowPositionWrites }
  else .error (.tiltProtocolError "Tilt pairing keys must be exactly 32 bytes.")

theorem init_accepts {pairingKey : Bytes} (length_eq : pairingKey.length = 32) (mac : String)
    (shadeId : Option String) (allowPositionWrites : Bool) :
    ∃ client, init mac pairingKey shadeId allowPositionWrites = .ok client ∧
      client.pairingKey.bytes = pairingKey := by
  unfold init
  rw [dif_pos length_eq]
  exact ⟨_, rfl, rfl⟩

variable (primitives : CryptoPrimitives) (client : TiltShadeClient)

def runSession {Result : Type} (operation : Async Result) : Async Result :=
  (callPrimitives primitives client.pairingKey).runSession client.shadeId operation

/-- The exceptions after which `read_status` tries once more. -/
def isTransient (error : PythonException) : Bool :=
  !error.isAuthenticationError &&
    (error.isBleakError || error.isTiltBleError || error.isTiltProtocolError ||
      error == .timeoutError)

def readStatus : Async ShadeStatus :=
  tryCatch (client.runSession primitives (TiltBleSession.readStatus primitives client.pairingKey))
    (fun error =>
      if isTransient error then do
        await (.sleep statusReadRetryDelaySeconds)
        client.runSession primitives (TiltBleSession.readStatus primitives client.pairingKey)
      else throw error)

/-- The guards of `set_position_and_read_status`. -/
def requestedPosition (positionPercent : PythonValue) : Raises Int :=
  if client.allowPositionWrites = false then
    .error (.tiltBleError "Position writes are not enabled for this shade.")
  else
    match positionPercent with
    | .int percent =>
        if 0 ≤ percent ∧ percent ≤ 100 then .ok percent
        else .error (.tiltProtocolError "Position must be between 0 and 100 percent.")
    | _ => .error (.tiltProtocolError "Position must be an integer percent.")

theorem requestedPosition_eq_ok {positionPercent : PythonValue} {percent : Int}
    (requested : client.requestedPosition positionPercent = .ok percent) :
    client.allowPositionWrites = true ∧ positionPercent = .int percent ∧
      (0 ≤ percent ∧ percent ≤ 100) := by
  unfold requestedPosition at requested
  split at requested
  · cases requested
  · next writes =>
      split at requested
      · split at requested
        · next inRange =>
            cases requested
            exact ⟨by simpa using writes, rfl, inRange⟩
        · cases requested
      · cases requested

/-- The nested function `operation` of `set_position_and_read_status`. -/
def positionOperation (key : PairingKey) (positionPercent : Int) (settleSeconds : Rat) :
    Async (ShadeStatus × Bool) := do
  let before ← TiltBleSession.readStatus primitives key
  if before.positionPercent = positionPercent then pure (before, false)
  else do
    let written ← tryCatch
      (do
        TiltBleSession.setPosition primitives key (.int positionPercent)
        pure true)
      (fun error => if error.isTiltBleTimeout then pure false else throw error)
    if written = false then do
      let afterTimeout ← tryCatch (TiltBleSession.readStatus primitives key) (fun error =>
        if error.isOrdinary then
          throw (.ambiguousPositionWrite "Position write timed out and readback also failed.")
        else throw error)
      if afterTimeout.positionPercent = positionPercent then pure (afterTimeout, true)
      else if movedToward before afterTimeout positionPercent = false then
        throw (.positionVerificationPending
          ("Position write timed out and the responding shade did not move " ++
            "toward the target.") afterTimeout)
      else pure (afterTimeout, true)
    else do
      if 0 < settleSeconds then await (.sleep settleSeconds)
      let after ← TiltBleSession.readStatus primitives key
      if after.positionPercent = positionPercent then pure (after, true)
      else if movedToward before after positionPercent = false then
        throw (.positionVerificationPending
          ("Position write completed and the responding shade did not move " ++
            "toward the target.") after)
      else pure (after, true)

def setPositionAndReadStatus (positionPercent : PythonValue) (settleSeconds : Rat) :
    Async (ShadeStatus × Bool) := do
  let percent ← Coroutine.ofExcept (client.requestedPosition positionPercent)
  client.runSession primitives
    (positionOperation primitives client.pairingKey percent settleSeconds)

/-- A public call, whose result or exception its caller has received. -/
def perform : ClientCall → Async Unit
  | .readStatus => do
      let _ ← client.readStatus primitives
      pure ()
  | .setPositionAndReadStatus positionPercent settleSeconds => do
      let _ ← client.setPositionAndReadStatus primitives positionPercent settleSeconds
      pure ()

/-- A history of public calls; the next one is made whatever came of the last. -/
def performAll : List ClientCall → Async Unit
  | [] => pure ()
  | call :: calls => do
      record (.called call)
      tryCatch (client.perform primitives call) (fun _ => pure ())
      performAll calls

end TiltShadeClient

end SmartblindsBle
