import SmartblindsBle.Foundation.Assertions
import SmartblindsBle.Tilt.Client

/-! # Calls on one event loop

Any number of calls share the BLE lock, and their tasks may be cancelled. The
clean-up of a session is a task of its own, which the task of the call awaits
behind `asyncio.shield`, and once more, directly, after a cancellation.
-/

namespace SmartblindsBle

open Foundation

/-! ## The shared state -/

/-- A session of a call; `read_status` opens another one when it tries again. -/
structure SessionKey (Call : Type) where
  call : Call
  attempt : Nat
  deriving DecidableEq

/-- A client from the call of its factory to the end of its `disconnect`. -/
inductive ClientPhase
  | absent
  | obtaining
  | held
  | disconnecting
  | disconnected
  deriving DecidableEq, Repr

/-- The factory of the client has been called, and its `disconnect` has not run to
its end. -/
def ClientPhase.isOpen : ClientPhase → Bool
  | .obtaining | .held | .disconnecting => true
  | .absent | .disconnected => false

/-- The task `tilt-ble-cleanup`. -/
inductive CleanupPhase
  | uncreated
  | created
  | begun
  | ended (outcome : Raises Unit)
  deriving DecidableEq

structure SessionState where
  client : ClientPhase
  /-- `session is not None`. -/
  hasSession : Bool
  /-- The session's worker has been started and not been detached. -/
  hasWorker : Bool
  cleanup : CleanupPhase
  /-- The task of the call awaits the clean-up directly. -/
  reawaited : Bool
  deriving DecidableEq

def SessionState.initial : SessionState := ⟨.absent, false, false, .uncreated, false⟩

structure CallPool (Call : Type) where
  /-- The session for which the lock is held. -/
  holder : Option (SessionKey Call)
  sessions : SessionKey Call → SessionState

namespace CallPool

variable {Call : Type}

def initial : CallPool Call := ⟨none, fun _ => .initial⟩

/-- A clean-up that has ended answers those who await it. -/
def awaitEnded (key : SessionKey Call) (pool : CallPool Call) :
    Option (Raises Unit × CallPool Call) :=
  match (pool.sessions key).cleanup with
  | .ended outcome => some (outcome, pool)
  | _ => none

theorem awaitEnded_eq_some {key : SessionKey Call} {reply : Raises Unit}
    {pool after : CallPool Call}
    (answered : pool.awaitEnded key = some (reply, after)) :
    (pool.sessions key).cleanup = .ended reply ∧ after = pool := by
  unfold awaitEnded at answered
  split at answered
  · next outcome ended =>
      cases answered
      exact ⟨ended, rfl⟩
  · cases answered

variable [DecidableEq Call]

def modifySession (key : SessionKey Call) (transform : SessionState → SessionState)
    (pool : CallPool Call) : CallPool Call :=
  { pool with sessions := Function.update pool.sessions key (transform (pool.sessions key)) }

@[simp] theorem modifySession_holder (key : SessionKey Call)
    (transform : SessionState → SessionState) (pool : CallPool Call) :
    (pool.modifySession key transform).holder = pool.holder := rfl

@[simp] theorem modifySession_self (key : SessionKey Call)
    (transform : SessionState → SessionState) (pool : CallPool Call) :
    (pool.modifySession key transform).sessions key = transform (pool.sessions key) :=
  Function.update_self ..

theorem modifySession_other {key other : SessionKey Call} (different : other ≠ key)
    (transform : SessionState → SessionState) (pool : CallPool Call) :
    (pool.modifySession key transform).sessions other = pool.sessions other :=
  Function.update_of_ne different ..

def setClient (key : SessionKey Call) (client : ClientPhase) : CallPool Call → CallPool Call :=
  modifySession key fun session => { session with client := client }

def setCleanup (key : SessionKey Call) (cleanup : CleanupPhase) : CallPool Call → CallPool Call :=
  modifySession key fun session => { session with cleanup := cleanup }

@[simp] theorem setClient_client (key : SessionKey Call) (client : ClientPhase)
    (pool : CallPool Call) : ((pool.setClient key client).sessions key).client = client :=
  congrArg SessionState.client (modifySession_self ..)

@[simp] theorem setCleanup_cleanup (key : SessionKey Call) (cleanup : CleanupPhase)
    (pool : CallPool Call) : ((pool.setCleanup key cleanup).sessions key).cleanup = cleanup :=
  congrArg SessionState.cleanup (modifySession_self ..)

def setReawaited (key : SessionKey Call) : CallPool Call → CallPool Call :=
  modifySession key fun session => { session with reawaited := true }

end CallPool

/-! ## Suspension points -/

inductive PoolTask (Call : Type)
  | call (call : Call)
  | cleanup (key : SessionKey Call)
  deriving DecidableEq

/-- What the tasks await; `begin` stands for the wait for a task's first step. -/
inductive PoolOperation (Call : Type)
  | begin
  | acquireBleLock (key : SessionKey Call)
  | clientFactory (key : SessionKey Call)
  | isConnected
  | connect
  | startNotify
  | authenticate
  | runOperation
  | awaitWorker
  | stopNotify
  | disconnect (key : SessionKey Call)
  | sleep (seconds : Rat)
  | shieldCleanup (key : SessionKey Call)
  | awaitCleanup (key : SessionKey Call)

def PoolOperation.Reply {Call : Type} : PoolOperation Call → Type
  | .isConnected => Bool
  | _ => Unit

/-- How an operation ends. A task is cancelled where it is suspended. -/
inductive PoolChoice
  | completed
  | failed (error : OrdinaryException)
  | cancelled
  | connected (connected : Bool)

/-- An `async def` of the transport, in one of the tasks. -/
abbrev PoolAsync (Call Result : Type) : Type :=
  Coroutine (CallPool Call) (PoolOperation Call) PoolOperation.Reply PythonException Result

namespace CallPool

variable {Call : Type} [DecidableEq Call]

def enter : PoolOperation Call → CallPool Call → CallPool Call
  | .clientFactory key, pool => pool.setClient key .obtaining
  | .disconnect key, pool => pool.setClient key .disconnecting
  | .awaitCleanup key, pool => pool.setReawaited key
  | _, pool => pool

def complete (task : PoolTask Call) :
    (operation : PoolOperation Call) → CallPool Call →
      Option (Raises operation.Reply × CallPool Call)
  | .begin, pool =>
      match task with
      | .call _ => some (.ok (), pool)
      | .cleanup key =>
          if (pool.sessions key).cleanup = .created then some (.ok (), pool.setCleanup key .begun)
          else none
  | .acquireBleLock key, pool =>
      match pool.holder with
      | none => some (.ok (), { pool with holder := some key })
      | some _ => none
  | .clientFactory key, pool => some (.ok (), pool.setClient key .held)
  | .isConnected, _ => none
  -- the worker has been cancelled before it is awaited
  | .awaitWorker, pool => some (.error .cancelledError, pool)
  | .disconnect key, pool => some (.ok (), pool.setClient key .disconnected)
  | .shieldCleanup key, pool => pool.awaitEnded key
  | .awaitCleanup key, pool => pool.awaitEnded key
  | .connect, pool => some (.ok (), pool)
  | .startNotify, pool => some (.ok (), pool)
  | .authenticate, pool => some (.ok (), pool)
  | .runOperation, pool => some (.ok (), pool)
  | .stopNotify, pool => some (.ok (), pool)
  | .sleep _, pool => some (.ok (), pool)

/-- The calls that may raise. -/
def fail (error : PythonException) :
    (operation : PoolOperation Call) → CallPool Call →
      Option (Raises operation.Reply × CallPool Call)
  | .clientFactory key, pool => some (.error error, pool.setClient key .absent)
  | .disconnect key, pool => some (.error error, pool.setClient key .disconnected)
  | .connect, pool => some (.error error, pool)
  | .startNotify, pool => some (.error error, pool)
  | .authenticate, pool => some (.error error, pool)
  | .runOperation, pool => some (.error error, pool)
  | .stopNotify, pool => some (.error error, pool)
  | _, _ => none

/-- A task that is cancelled at its suspension point, where it is the one that
the cancellation reaches. -/
def interrupt : (operation : PoolOperation Call) → CallPool Call →
    Option (Raises operation.Reply × CallPool Call)
  | .isConnected, _ => none
  | .clientFactory key, pool => some (.error .cancelledError, pool.setClient key .absent)
  | .begin, pool => some (.error .cancelledError, pool)
  | .acquireBleLock _, pool => some (.error .cancelledError, pool)
  | .connect, pool => some (.error .cancelledError, pool)
  | .startNotify, pool => some (.error .cancelledError, pool)
  | .authenticate, pool => some (.error .cancelledError, pool)
  | .runOperation, pool => some (.error .cancelledError, pool)
  | .awaitWorker, pool => some (.error .cancelledError, pool)
  | .stopNotify, pool => some (.error .cancelledError, pool)
  -- the client stays half disconnected
  | .disconnect _, pool => some (.error .cancelledError, pool)
  | .sleep _, pool => some (.error .cancelledError, pool)
  | .shieldCleanup _, pool => some (.error .cancelledError, pool)
  | .awaitCleanup _, pool => some (.error .cancelledError, pool)

/-- Whether a cancellation can reach a task at a suspension point. A task that awaits
its clean-up directly passes the cancellation on, unless the clean-up has ended;
nobody else cancels a clean-up. -/
def Cancellable (task : PoolTask Call) (operation : PoolOperation Call) (pool : CallPool Call) :
    Prop :=
  match task, operation with
  | .call _, .awaitCleanup key => (pool.awaitEnded key).isSome = true
  | .call _, _ => True
  | .cleanup key, .begin =>
      (pool.sessions key).reawaited = true ∧ (pool.sessions key).cleanup = .created
  | .cleanup key, _ => (pool.sessions key).reawaited = true

instance (task : PoolTask Call) (operation : PoolOperation Call) (pool : CallPool Call) :
    Decidable (Cancellable task operation pool) := by
  cases task with
  | call call =>
      cases operation with
      | awaitCleanup key => exact inferInstanceAs (Decidable (_ = true))
      | _ => exact .isTrue trivial
  | cleanup key =>
      cases operation with
      | begin => exact inferInstanceAs (Decidable (_ = true ∧ _ = CleanupPhase.created))
      | _ => exact inferInstanceAs (Decidable (_ = true))

def answer (task : PoolTask Call) (operation : PoolOperation Call) (choice : PoolChoice)
    (pool : CallPool Call) : Option (Raises operation.Reply × CallPool Call) :=
  match choice with
  | .completed => complete task operation pool
  | .failed error => fail error.val operation pool
  | .cancelled => if Cancellable task operation pool then interrupt operation pool else none
  | .connected connected =>
      match operation with
      | .isConnected => some (.ok connected, pool)
      | _ => none

theorem answer_cancelled {task : PoolTask Call} {awaited : PoolOperation Call}
    {reply : Raises awaited.Reply} {pool after : CallPool Call}
    (answered : answer task awaited .cancelled pool = some (reply, after)) :
    Cancellable task awaited pool ∧ interrupt awaited pool = some (reply, after) :=
  Option.ite_none_right_eq_some.mp answered

/-- The operations at which nothing is entered, and whose answers change nothing. -/
def isPlain : PoolOperation Call → Bool
  | .begin | .acquireBleLock _ | .clientFactory _ | .disconnect _ | .awaitCleanup _ => false
  | _ => true

theorem enter_plain {awaited : PoolOperation Call} (plain : isPlain awaited = true)
    (pool : CallPool Call) : enter awaited pool = pool := by
  cases awaited with
  | clientFactory key => cases plain
  | disconnect key => cases plain
  | awaitCleanup key => cases plain
  | _ => rfl

theorem answer_plain {task : PoolTask Call} {awaited : PoolOperation Call}
    (plain : isPlain awaited = true) {choice : PoolChoice} {reply : Raises awaited.Reply}
    {pool after : CallPool Call}
    (answered : answer task awaited choice pool = some (reply, after)) :
    after = pool := by
  cases choice with
  | completed =>
      cases awaited <;> simp only [answer, complete] at answered
      case shieldCleanup key => exact (awaitEnded_eq_some answered).2
      case isConnected => cases answered
      case begin => cases plain
      case acquireBleLock => cases plain
      case clientFactory => cases plain
      case disconnect => cases plain
      case awaitCleanup => cases plain
      all_goals
        cases answered
        rfl
  | failed error =>
      cases awaited <;> simp only [answer, fail, reduceCtorEq] at answered
      case clientFactory => cases plain
      case disconnect => cases plain
      all_goals
        cases answered
        rfl
  | cancelled =>
      rcases answer_cancelled answered with ⟨_, interrupted⟩
      cases awaited <;> simp only [interrupt, reduceCtorEq] at interrupted
      case clientFactory => cases plain
      all_goals
        cases interrupted
        rfl
  | connected connected =>
      cases awaited <;> cases answered
      rfl

/-- The tasks of an event loop; nothing moves but them. -/
def environment : PoolEnvironment (PoolTask Call) (CallPool Call) (PoolOperation Call)
    PoolOperation.Reply PythonException Empty PoolChoice where
  enter _ := enter
  background action _ := nomatch action
  answer := answer

/-! ## The tasks -/

def await (operation : PoolOperation Call) : PoolAsync Call operation.Reply :=
  Coroutine.perform operation

/-- `_await_cancellation_safe_cleanup`; the clean-up is the code of another task. -/
def awaitCancellationSafeCleanup (key : SessionKey Call) : PoolAsync Call Unit := do
  Coroutine.modify (setCleanup key .created)
  tryCatch (await (.shieldCleanup key)) (fun error =>
    if error = .cancelledError then do
      tryCatch (await (.awaitCleanup key)) (fun error =>
        if error.isOrdinary then pure () else throw error)
      throw error
    else throw error)

/-- What `_run_session` and the clean-up of this session use. -/
def sessionPrimitives (key : SessionKey Call) : SessionPrimitives
    (Coroutine (CallPool Call) (PoolOperation Call) PoolOperation.Reply PythonException) where
  acquireBleLock := await (.acquireBleLock key)
  releaseBleLock := Coroutine.modify fun pool => { pool with holder := none }
  clientFactory := await (.clientFactory key)
  isConnected := await .isConnected
  connect := await .connect
  disconnect := await (.disconnect key)
  forgetSession := Coroutine.modify (modifySession key fun session =>
    { session with hasSession := false })
  createSession := Coroutine.modify (modifySession key fun session =>
    { session with hasSession := true })
  hasSession := do
    let pool ← Coroutine.current
    pure (pool.sessions key).hasSession
  startNotify := await .startNotify
  startWorker := Coroutine.modify (modifySession key fun session =>
    { session with hasWorker := true })
  takeWorker := do
    let pool ← Coroutine.current
    Coroutine.modify (modifySession key fun session => { session with hasWorker := false })
    pure (pool.sessions key).hasWorker
  awaitWorker := await .awaitWorker
  stopNotify := await .stopNotify
  authenticate := await .authenticate
  awaitCancellationSafeCleanup _ := awaitCancellationSafeCleanup key

/-- The clean-up task of a session: `_close_ble_client`. -/
def cleanupTask (key : SessionKey Call) : PoolAsync Call Unit := do
  let outcome : Raises Unit ← tryCatch
    (do
      await .begin
      let session ← (sessionPrimitives key).hasSession
      (sessionPrimitives key).closeBleClient session
      pure (.ok ()))
    (fun error => pure (.error error))
  Coroutine.modify (setCleanup key (.ended outcome))

def runSession (client : TiltShadeClient) (key : SessionKey Call) : PoolAsync Call Unit :=
  (sessionPrimitives key).runSession client.shadeId (await .runOperation)

/-- The task of a public call. -/
def callTask (client : TiltShadeClient) (call : Call) : ClientCall → PoolAsync Call Unit
  | .readStatus => do
      await .begin
      tryCatch (runSession client ⟨call, 0⟩) (fun error =>
        if TiltShadeClient.isTransient error then do
          await (.sleep statusReadRetryDelaySeconds)
          runSession client ⟨call, 1⟩
        else throw error)
  | .setPositionAndReadStatus positionPercent _ => do
      await .begin
      let _ ← Coroutine.ofExcept (client.requestedPosition positionPercent)
      runSession client ⟨call, 0⟩

/-- The tasks of any collection of calls, and their clean-ups, before any has begun. -/
def start (client : Call → TiltShadeClient) (calls : Call → ClientCall) :
    Pool (PoolTask Call) (CallPool Call) (PoolOperation Call) PoolOperation.Reply
      PythonException Unit where
  codes task := match task with
    | .call call => callTask (client call) call (calls call)
    | .cleanup key => cleanupTask key
  state := initial

end CallPool

end SmartblindsBle
