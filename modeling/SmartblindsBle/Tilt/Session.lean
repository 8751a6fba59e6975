import SmartblindsBle.Foundation.CoroutineRuns
import SmartblindsBle.Tilt.ApplicationLayer
import SmartblindsBle.Tilt.LinkLayer

/-! # One session with a shade

The object `_TiltBleSession`. Its methods run in the caller's task and are
written as coroutines; the notification worker and the notification callback
are the background of that task.
-/

namespace SmartblindsBle

open Foundation

/-! ## The session object -/

/-- An item of the response queue: a message, or an injected exception. -/
inductive ResponseItem
  | message (frame : Bytes)
  | exception (error : OrdinaryException)
  deriving DecidableEq, Repr

/-- A future that waits for the acknowledgement of a chunk. -/
inductive AckWaiter
  | pending
  | acknowledged
  | failed (error : OrdinaryException)
  deriving DecidableEq, Repr

/-- The notification worker waits for a notification, or it is writing an
acknowledgement and holds the message that the chunk completed. -/
inductive NotificationWorker
  | waiting
  | acknowledging (message : Option Bytes)
  deriving DecidableEq, Repr

def notificationQueueSize : Nat := 128
def responseQueueSize : Nat := 4

/-- The fields of `_TiltBleSession` that change. Only one frame is sent at a
time, so a waiter is known by its sequence number. -/
structure TiltBleSession where
  notificationQueue : List Bytes
  responseQueue : List ResponseItem
  ackWaiters : Nat → Option AckWaiter
  assembler : BleMessageAssembler
  worker : Option NotificationWorker
  txSequence : Nat
  counter : Int
  messageId : Int
  nonce : Option Bytes

/-- The state that `__init__` sets up. -/
def TiltBleSession.initial : TiltBleSession where
  notificationQueue := []
  responseQueue := []
  ackWaiters := fun _ => none
  assembler := .initial
  worker := none
  txSequence := 1
  counter := 1
  messageId := 1
  nonce := none

/-! ## The history of a run

The history records what crosses the boundary to the BLE client, the application
requests that are encoded, and how the calls on the session end. No method reads
it. -/

/-- The public calls of `TiltShadeClient`. -/
inductive ClientCall
  | readStatus
  | setPositionAndReadStatus (positionPercent : PythonValue) (settleSeconds : Rat)
  deriving DecidableEq

inductive Action
  /-- A public call began. -/
  | called (call : ClientCall)
  /-- A session object was created for a newly obtained client. -/
  | sessionCreated
  /-- The caller's task handed a data chunk to `write_gatt_char`. -/
  | handed (chunk : Bytes)
  /-- The notification worker handed an acknowledgement to `write_gatt_char`. -/
  | acknowledged (ack : Bytes)
  /-- The acknowledgement of the last chunk handed out has arrived. -/
  | confirmed (sequence : Nat)
  /-- The caller's task took a message from the response queue. -/
  | received (frame : Bytes)
  /-- Ids were taken for an application request, and its encoder was called. -/
  | requested (counter messageId : Int) (frame : Raises Bytes)
  /-- A call of the session's `read_status` ended. -/
  | statusRead (outcome : Raises ShadeStatus)
  /-- A call of the session's `set_position` ended. -/
  | positionSet (outcome : Raises Unit)
  deriving DecidableEq

structure World where
  session : TiltBleSession
  /-- The local variable `session` of `_run_session` is not `None`. -/
  hasSession : Bool
  history : List Action

def World.record (action : Action) (world : World) : World :=
  { world with history := world.history ++ [action] }

def World.modifySession (transform : TiltBleSession → TiltBleSession) (world : World) : World :=
  { world with session := transform world.session }

/-! ## Suspension points -/

/-- What the caller's task awaits, and the reads of `is_connected`, which the
BLE client answers. -/
inductive Operation
  | acquireBleLock
  | clientFactory
  | isConnected
  | connect
  | startNotify
  | awaitWorker
  | stopNotify
  | disconnect
  | sleep (seconds : Rat)
  | writeGattChar (data : Bytes)
  | waitAck (sequence : Nat)
  | getResponse
  deriving DecidableEq

def Operation.Reply : Operation → Type
  | .isConnected => Bool
  | .getResponse => ResponseItem
  | _ => Unit

/-- The operations under `asyncio.wait_for`. -/
def Operation.isTimed : Operation → Bool
  | .waitAck _ | .getResponse => true
  | _ => false

/-- The calls of the client factory and of the BLE client. -/
def Operation.callsClient : Operation → Bool
  | .clientFactory | .connect | .startNotify | .stopNotify | .disconnect
  | .writeGattChar _ => true
  | _ => false

/-- An `async def` of the transport. -/
abbrev Async (Result : Type) : Type :=
  Coroutine World Operation Operation.Reply PythonException Result

namespace TiltBleSession

def await (operation : Operation) : Async operation.Reply := Coroutine.perform operation

def record (action : Action) : Async Unit := Coroutine.modify (World.record action)

def modify (transform : TiltBleSession → TiltBleSession) : Async Unit :=
  Coroutine.modify (World.modifySession transform)

/-- A method whose outcome is noted in the history. -/
def reported {Result : Type} (note : Raises Result → Action) (body : Async Result) :
    Async Result :=
  tryCatch
    (do
      let value ← body
      record (note (.ok value))
      pure value)
    (fun error => do
      record (note (.error error))
      throw error)

/-- `self._ack_waiters[sequence] = waiter` with a new future. -/
def registerWaiter (sequence : Nat) (session : TiltBleSession) : TiltBleSession :=
  { session with
    ackWaiters := fun key => if key = sequence then some .pending else session.ackWaiters key }

/-- `self._ack_waiters.pop(sequence, None)`. -/
def popWaiter (sequence : Nat) (session : TiltBleSession) : TiltBleSession :=
  { session with
    ackWaiters := fun key => if key = sequence then none else session.ackWaiters key }

/-! ## Sending a frame -/

/-- One attempt for a chunk; whether it was acknowledged. A time-out is an
exception only in the last attempt. -/
def attemptChunk (chunk : Bytes) (sequence : Nat) (isLast : Bool) : Async Bool := do
  modify (registerWaiter sequence)
  tryFinally
    (tryCatch
      (do
        await (.writeGattChar chunk)
        await (.waitAck sequence)
        pure true)
      (fun error =>
        if error = .timeoutError then
          if isLast then
            throw (.tiltBleTimeout
              ("Timed out waiting for BLE ACK sequence " ++ toString sequence ++ "."))
          else pure false
        else throw error))
    (modify (popWaiter sequence))

/-- The attempts for one chunk; `remaining` counts those that are left. -/
def sendChunk (chunk : Bytes) (sequence : Nat) : (remaining : Nat) → Async Unit
  | 0 => pure ()
  | remaining + 1 => do
      let delivered ← attemptChunk chunk sequence (remaining == 0)
      if delivered then pure () else sendChunk chunk sequence remaining

/-- The loop over the chunks of a frame. -/
def sendChunks (retryChunks : Bool) : List Bytes → Async Unit
  | [] => pure ()
  | chunk :: chunks => do
      let sequence := (chunk.getD 1 0 &&& 0x3F).toNat
      sendChunk chunk sequence (if retryChunks then 2 else 1)
      record (.confirmed sequence)
      let next ← Coroutine.ofExcept (nextSequence sequence)
      modify fun session => { session with txSequence := next }
      sendChunks retryChunks chunks

/-- The wait for the response, and the unpacking of the queue's item. -/
def awaitResponse : Async Bytes := do
  let response : ResponseItem ← tryCatch (await .getResponse) (fun error =>
    if error = .timeoutError then
      throw (.tiltBleTimeout "Timed out waiting for Tilt response.")
    else throw error)
  match response with
  | .exception error => throw error.val
  | .message frame => pure frame

def sendFrame (frame : Bytes) (retryChunks : Bool) : Async Bytes := do
  let world ← Coroutine.current
  if world.session.responseQueue.isEmpty then
    let chunks ← Coroutine.ofExcept (chunkForBle frame world.session.txSequence)
    sendChunks retryChunks chunks
    awaitResponse
  else throw (.tiltBleError "Unexpected stale Tilt response before request.")

/-! ## The handshake -/

def protocolThrottleSeconds : Rat := 1 / 10
def secureConnectorThrottleSeconds : Rat := 1 / 10

/-- The protocol to select, from the reply to the version request. -/
def selectedProtocol (versionsFrame : Bytes) : Raises UInt8 :=
  match parseCryptoResponse versionsFrame with
  | .error error => .error error
  | .ok response =>
      match parseProtocolVersions response with
      | .error error => .error error
      | .ok versions =>
          match supportedCryptoProtocols.find? (fun version => versions.contains version) with
          | none => .error (.tiltProtocolError
              "Shade does not support an allowlisted crypto protocol.")
          | some selected => .ok selected

/-- The checks on the reply to the selection. -/
def checkSelection (selectionFrame : Bytes) (selected : UInt8) : Raises Unit :=
  match parseCryptoResponse selectionFrame with
  | .error error => .error error
  | .ok selection =>
      match selection.command with
      | .selectProtocolVersion =>
          if selection.payload ≠ [selected] then
            .error (.tiltProtocolError "Shade selected an unexpected crypto protocol.")
          else .ok ()
      | .ack =>
          if selection.payload ≠ [CryptoCommand.selectProtocolVersion.value] then
            .error (.tiltProtocolError "Shade returned an invalid protocol-selection ACK.")
          else .ok ()
      | _ => .error (.tiltProtocolError "Shade did not acknowledge protocol selection.")

/-- The session nonce, from a reply that proves the pairing key. -/
def verifiedNonce (primitives : CryptoPrimitives) (key : PairingKey) (nonceFrame : Bytes) :
    Raises Bytes :=
  match parseCryptoResponse nonceFrame with
  | .error error => .error error
  | .ok response =>
      match parseNonceResponse response with
      | .error error => .error error
      | .ok nonceResponse =>
          match pairingKeyMatchesProof primitives key.bytes nonceResponse.keyProof with
          | .error error => .error error
          | .ok false => .error (.authenticationError
              "Configured pairing key did not authenticate this shade.")
          | .ok true => .ok nonceResponse.nonce

variable (primitives : CryptoPrimitives) (key : PairingKey)

def authenticate : Async Unit := do
  await (.sleep protocolThrottleSeconds)
  let versionsRequest ← Coroutine.ofExcept encodeProtocolVersionsRequest
  let versionsFrame ← sendFrame versionsRequest true
  let selected ← Coroutine.ofExcept (selectedProtocol versionsFrame)
  await (.sleep protocolThrottleSeconds)
  let selectionRequest ← Coroutine.ofExcept (encodeProtocolSelection selected.toNat)
  let selectionFrame ← sendFrame selectionRequest true
  Coroutine.ofExcept (checkSelection selectionFrame selected)
  await (.sleep (protocolThrottleSeconds + secureConnectorThrottleSeconds))
  let nonceRequest ← Coroutine.ofExcept encodeNonceRequest
  let nonceFrame ← sendFrame nonceRequest true
  let nonce ← Coroutine.ofExcept (verifiedNonce primitives key nonceFrame)
  modify fun session => { session with nonce := some nonce }
  await (.sleep secureConnectorThrottleSeconds)

/-! ## Application requests -/

def requireNonce : Async Bytes := do
  let world ← Coroutine.current
  match world.session.nonce with
  | none => throw (.authenticationError "Tilt session was not authenticated.")
  | some nonce => pure nonce

def counterAfter (counter : Int) : Int := if counter = 0x7FFF then 1 else counter + 1
def messageIdAfter (messageId : Int) : Int := if messageId = 15 then 1 else messageId + 1

def takeApplicationIds : Async (Int × Int) := do
  let world ← Coroutine.current
  let counter := world.session.counter
  let messageId := world.session.messageId
  modify fun session =>
    { session with
      counter := counterAfter counter
      messageId := messageIdAfter messageId }
  pure (counter, messageId)

/-- The common body of `_application_request` and `set_position`: take ids,
encode, send, and decode the reply against the ids. -/
def exchange (encode : (nonce : Bytes) → (counter messageId : Int) → Raises Bytes)
    (command : ShadeCommand) (retryChunks : Bool) : Async ApplicationResponse := do
  let nonce ← requireNonce
  let (counter, messageId) ← takeApplicationIds
  record (.requested counter messageId (encode nonce counter messageId))
  let frame ← Coroutine.ofExcept (encode nonce counter messageId)
  let responseFrame ← sendFrame frame retryChunks
  Coroutine.ofExcept (decodeApplicationResponse primitives responseFrame key.bytes nonce
    command messageId (some counter))

def applicationRequest (command : ShadeCommand) (retryChunks : Bool) :
    Async ApplicationResponse :=
  exchange primitives key
    (fun nonce counter messageId =>
      encodeReadRequest primitives command.toInt key.bytes nonce counter messageId)
    command retryChunks

def readStatus : Async ShadeStatus :=
  reported .statusRead do
    let response ← applicationRequest primitives key .getStatus true
    Coroutine.ofExcept (parseStatus response)

/-- The default of the argument `speed`. -/
def defaultSpeed : PythonValue := .int 100

def setPosition (positionPercent : PythonValue) : Async Unit :=
  reported .positionSet do
    let _ ← exchange primitives key
      (fun nonce counter messageId =>
        encodePositionRequest primitives positionPercent key.bytes nonce counter messageId
          defaultSpeed)
      .setPosition false
    pure ()

/-! ## The notification callback and worker -/

/-- Resolve a pending waiter; a future that is already done is left alone. -/
def AckWaiter.resolve (outcome : AckWaiter) : AckWaiter → AckWaiter
  | .pending => outcome
  | done => done

/-- `_fail`: the exception goes to every pending waiter and, when it has room,
to the response queue. -/
def fail (error : OrdinaryException) (session : TiltBleSession) : TiltBleSession :=
  { session with
    ackWaiters := fun key => (session.ackWaiters key).map (AckWaiter.resolve (.failed error))
    responseQueue :=
      if session.responseQueue.length < responseQueueSize then
        session.responseQueue ++ [.exception error]
      else session.responseQueue }

/-- The worker's `except` clauses: an `Exception` goes to `_fail`, any other ends
the worker. -/
def workerRaised (error : PythonException) (session : TiltBleSession) : TiltBleSession :=
  if isOrdinary : error.isOrdinary = true then session.fail ⟨error, isOrdinary⟩
  else { session with worker := none }

def notificationReceived (data : Bytes) (session : TiltBleSession) : TiltBleSession :=
  if session.notificationQueue.length < notificationQueueSize then
    { session with notificationQueue := session.notificationQueue ++ [data] }
  else session.fail ⟨.tiltBleError "Tilt notification queue overflowed.", rfl⟩

/-- `waiter.set_result(None)` on the waiter of a sequence number. -/
def acknowledgeWaiter (sequence : Nat) (session : TiltBleSession) : TiltBleSession :=
  { session with
    ackWaiters := fun key =>
      if key = sequence then (session.ackWaiters key).map (AckWaiter.resolve .acknowledged)
      else session.ackWaiters key }

/-- The worker's handling of one notification, up to its write: the new state
and the acknowledgement that it hands to `write_gatt_char`, if any. -/
def handleNotification (data : Bytes) (session : TiltBleSession) :
    TiltBleSession × Option Bytes :=
  match parseBleChunk data with
  | .error error => (session.workerRaised error, none)
  | .ok chunk =>
      if chunk.forBluetoothLayer then
        match parseBleAck data with
        | .error error => (session.workerRaised error, none)
        | .ok acknowledged => (session.acknowledgeWaiter acknowledged, none)
      else
        match session.assembler.add data with
        | (assembler, .error error) =>
            ({ session with assembler := assembler }.workerRaised error, none)
        | (assembler, .ok (acknowledged, message)) =>
            match makeBleAck acknowledged with
            | .error error => ({ session with assembler := assembler }.workerRaised error, none)
            | .ok ack =>
                ({ session with
                    assembler := assembler
                    worker := some (.acknowledging message) }, some ack)

theorem handleNotification_bleAck (session : TiltBleSession) {sequence : Nat}
    (positive : 1 ≤ sequence) (bound : sequence ≤ maxSequence) :
    session.handleNotification (bleAck sequence) = (session.acknowledgeWaiter sequence, none) := by
  rw [handleNotification, parseBleChunk_bleAck]
  simp only [if_true, parseBleAck_bleAck positive bound]

theorem handleNotification_dataChunk (session : TiltBleSession) (endOfMessage : Bool)
    {payload : Bytes} (fits : payload.length ≤ maxBlePayload) :
    session.handleNotification
        (dataChunk session.assembler.expectedSequence endOfMessage payload) =
      ({ session with
          assembler := session.assembler.advance
            (if endOfMessage then [] else session.assembler.buffer ++ payload)
          worker := some (.acknowledging
            (if endOfMessage then some (session.assembler.buffer ++ payload) else none)) },
        some (bleAck session.assembler.expectedSequence)) := by
  have positive := session.assembler.expectedSequence_pos
  have bound := session.assembler.expectedSequence_le
  rw [handleNotification, parseBleChunk_dataChunk positive bound endOfMessage fits,
    BleMessageAssembler.add_dataChunk _ endOfMessage fits]
  cases endOfMessage with
  | false => simp [makeBleAck_eq positive bound]
  | true => simp [makeBleAck_eq positive bound]

/-- The worker's code after its write: queue the completed message. -/
def acknowledgementWritten (outcome : Raises Unit) (message : Option Bytes)
    (session : TiltBleSession) : TiltBleSession :=
  let session := { session with worker := some .waiting }
  match outcome, message with
  | .error error, _ => session.workerRaised error
  | .ok (), none => session
  | .ok (), some message =>
      if session.responseQueue.length < responseQueueSize then
        { session with responseQueue := session.responseQueue ++ [.message message] }
      else session.workerRaised .queueFull

end TiltBleSession

/-! ## The environment of the caller's task -/

/-- Steps of the other parties: the callback, the worker taking a notification,
and the end of the worker's write, which fails with ordinary exceptions. -/
inductive Background
  | notify (data : Bytes)
  | work
  | workWritten (outcome : Raises Unit)

/-- How an operation ends. -/
inductive Choice
  | completed
  | timedOut
  | failed (error : PythonException)
  | connected (connected : Bool)

namespace World

def background : Background → World → Option World
  | .notify data, world =>
      if world.hasSession then some (world.modifySession (·.notificationReceived data)) else none
  | .work, world =>
      match world.session.worker, world.session.notificationQueue with
      | some .waiting, data :: rest =>
          let handled :=
            { world.session with notificationQueue := rest }.handleNotification data
          let after := { world with session := handled.1 }
          match handled.2 with
          | none => some after
          | some ack => some (after.record (.acknowledged ack))
      | _, _ => none
  | .workWritten outcome, world =>
      match world.session.worker, outcome with
      | some (.acknowledging _), .error .cancelledError => none
      | some (.acknowledging message), outcome =>
          some (world.modifySession (·.acknowledgementWritten outcome message))
      | _, _ => none

/-- Handing data to `write_gatt_char` happens at once; its outcome comes later. -/
def enter : Operation → World → World
  | .writeGattChar data, world => world.record (.handed data)
  | _, world => world

/-- An operation completes. -/
def complete : (operation : Operation) → World → Option (Raises operation.Reply × World)
  | .isConnected, _ => none
  -- the worker has been cancelled before it is awaited
  | .awaitWorker, world => some (.error .cancelledError, world)
  | .waitAck sequence, world =>
      match world.session.ackWaiters sequence with
      | some .acknowledged => some (.ok (), world)
      | some (.failed error) => some (.error error.val, world)
      | _ => none
  | .getResponse, world =>
      match world.session.responseQueue with
      | [] => none
      | item :: rest =>
          let after := world.modifySession fun session => { session with responseQueue := rest }
          match item with
          | .message frame => some (.ok item, after.record (.received frame))
          | .exception _ => some (.ok item, after)
  | .acquireBleLock, world => some (.ok (), world)
  | .clientFactory, world => some (.ok (), world)
  | .connect, world => some (.ok (), world)
  | .startNotify, world => some (.ok (), world)
  | .stopNotify, world => some (.ok (), world)
  | .disconnect, world => some (.ok (), world)
  | .sleep _, world => some (.ok (), world)
  | .writeGattChar _, world => some (.ok (), world)

/-- A call to the BLE client completes or raises an ordinary exception. A timer
may fire at any wait, also when the result is already there. -/
def answer (operation : Operation) (choice : Choice) (world : World) :
    Option (Raises operation.Reply × World) :=
  match choice with
  | .completed => complete operation world
  | .timedOut => if operation.isTimed then some (.error .timeoutError, world) else none
  | .failed error =>
      if operation.callsClient ∧ error.isOrdinary then some (.error error, world) else none
  | .connected connected =>
      match operation with
      | .isConnected => some (.ok connected, world)
      | _ => none

end World

/-- The event loop around the caller's task. -/
def eventLoop :
    Environment World Operation Operation.Reply PythonException Background Choice where
  enter := World.enter
  background := World.background
  answer := World.answer

/-- The caller's task is never stuck: every wait has a timer, and every other
operation can complete. -/
theorem World.answer_exists (operation : Operation) (world : World) :
    ∃ choice reply after, World.answer operation choice world = some (reply, after) := by
  cases operation with
  | isConnected => exact ⟨.connected true, _, _, rfl⟩
  | waitAck sequence => exact ⟨.timedOut, _, _, rfl⟩
  | getResponse => exact ⟨.timedOut, _, _, rfl⟩
  | _ => exact ⟨.completed, _, _, rfl⟩

/-- Every task of the transport can be run to its end. -/
theorem eventLoop_exists_finished {Result : Type} (code : Async Result) (world : World) :
    ∃ events outcome state,
      eventLoop.run (eventLoop.settle code world) events = some ⟨.done outcome, state⟩ :=
  eventLoop.exists_finished World.answer_exists code world

end SmartblindsBle
