import SmartblindsBle.Tilt.Client

/-! # Release of the client

`_run_session` for one call that nobody cancels, against a BLE client and an
operation each of whose calls may return or raise. What `is_connected` reports
may depend on everything that happened before.
-/

namespace SmartblindsBle

open Foundation

/-! ## Scripted calls -/

/-- What `_run_session` does to the client and the session, in order. -/
inductive ReleaseCall
  | clientFactory
  | isConnected (connected : Bool)
  | connect
  | createSession
  | startNotify
  | authenticate
  | operation
  | stopNotify
  | disconnect
  deriving DecidableEq, Repr

/-- One course of events: how each call ends. None is made twice but the reads
of `is_connected`. -/
structure ReleaseScript (Result : Type) where
  isConnected : List ReleaseCall → Bool
  connect : Except OrdinaryException Unit
  startNotify : Except OrdinaryException Unit
  authenticate : Except OrdinaryException Unit
  operation : Except OrdinaryException Result
  stopNotify : Except OrdinaryException Unit
  disconnect : Except OrdinaryException Unit

structure ReleaseState where
  calls : List ReleaseCall
  /-- `session is not None`. -/
  hasSession : Bool
  /-- The session's worker has been started and not been detached. -/
  hasWorker : Bool
  deriving DecidableEq, Repr

def ReleaseState.note (state : ReleaseState) (call : ReleaseCall) : ReleaseState :=
  { state with calls := state.calls ++ [call] }

/-- A computation with exceptions that notes its calls. -/
abbrev Scripted (Value : Type) : Type := ExceptT PythonException (StateM ReleaseState) Value

namespace Scripted

variable {Value Result : Type}

def start (code : Scripted Value) (state : ReleaseState) : Raises Value × ReleaseState :=
  code.run state

/-- A call that ends as the script says. -/
def call (entry : ReleaseCall) (outcome : Except OrdinaryException Value) : Scripted Value :=
  ExceptT.mk fun state => (outcome.mapError Subtype.val, state.note entry)

def update (transform : ReleaseState → ReleaseState) : Scripted Unit :=
  ExceptT.mk fun state => (.ok (), transform state)

def inspect (read : ReleaseState → Value) : Scripted Value :=
  ExceptT.mk fun state => (.ok (read state), state)

end Scripted

namespace ReleaseScript

variable {Result : Type} (script : ReleaseScript Result)

/-- The primitives of a call under a script. The cancelled worker ends with
`CancelledError`; without a cancellation of the caller, the clean-up task is
awaited to its end. -/
def primitives : SessionPrimitives (ExceptT PythonException (StateM ReleaseState)) where
  acquireBleLock := pure ()
  releaseBleLock := pure ()
  clientFactory := Scripted.call .clientFactory (.ok ())
  isConnected := do
    let connected ← Scripted.inspect fun state => script.isConnected state.calls
    Scripted.call (.isConnected connected) (.ok connected)
  connect := Scripted.call .connect script.connect
  disconnect := Scripted.call .disconnect script.disconnect
  forgetSession := Scripted.update fun state => { state with hasSession := false }
  createSession := do
    Scripted.update fun state => { state with hasSession := true }
    Scripted.call .createSession (.ok ())
  hasSession := Scripted.inspect ReleaseState.hasSession
  startNotify := Scripted.call .startNotify script.startNotify
  startWorker := Scripted.update fun state => { state with hasWorker := true }
  takeWorker := do
    let worker ← Scripted.inspect ReleaseState.hasWorker
    Scripted.update fun state => { state with hasWorker := false }
    pure worker
  awaitWorker := throw .cancelledError
  stopNotify := Scripted.call .stopNotify script.stopNotify
  authenticate := Scripted.call .authenticate script.authenticate
  awaitCancellationSafeCleanup := fun cleanup => cleanup

/-- The body of the session, with the operation of the script. -/
def body (shadeId : String) : Scripted Result :=
  script.primitives.sessionBody shadeId (Scripted.call .operation script.operation)

def runSession (shadeId : String) : Scripted Result :=
  script.primitives.runSession shadeId (Scripted.call .operation script.operation)

end ReleaseScript

/-! ## Runs -/

namespace Scripted

variable {Value Result : Type}

@[simp] theorem start_pure (value : Value) (state : ReleaseState) :
    (pure value : Scripted Value).start state = (.ok value, state) := rfl

@[simp] theorem start_throw (error : PythonException) (state : ReleaseState) :
    (throw error : Scripted Value).start state = (.error error, state) := rfl

theorem start_bind (first : Scripted Value) (rest : Value → Scripted Result)
    (state : ReleaseState) :
    (first >>= rest).start state =
      match first.start state with
      | (.ok value, later) => (rest value).start later
      | (.error error, later) => (.error error, later) := by
  change ExceptT.bindCont rest (first.run state).1 (first.run state).2 = _
  unfold start
  rcases first.run state with ⟨error | value, later⟩ <;> rfl

theorem start_tryCatch (body : Scripted Value) (handler : PythonException → Scripted Value)
    (state : ReleaseState) :
    (tryCatch body handler : Scripted Value).start state =
      match body.start state with
      | (.ok value, later) => (.ok value, later)
      | (.error error, later) => (handler error).start later := by
  simp only [start, tryCatch, tryCatchThe, MonadExceptOf.tryCatch, ExceptT.tryCatch, ExceptT.mk,
    ExceptT.run, bind, StateT.bind]
  rcases body state with ⟨error | value, later⟩ <;> rfl

theorem start_tryFinally (body : Scripted Value) (cleanup : Scripted Unit)
    (state : ReleaseState) :
    (Foundation.tryFinally body cleanup : Scripted Value).start state =
      match cleanup.start (body.start state).2 with
      | (.ok _, later) => ((body.start state).1, later)
      | (.error error, later) => (.error error, later) := by
  unfold Foundation.tryFinally
  rw [start_bind, start_tryCatch, start_bind]
  rcases body.start state with ⟨error | value, later⟩
  · simp only [start_pure, start_bind]
    rcases cleanup.start later with ⟨failed | _, last⟩ <;> rfl
  · simp only [start_pure, start_bind]
    rcases cleanup.start later with ⟨failed | _, last⟩ <;> rfl

@[simp] theorem start_call (entry : ReleaseCall) (outcome : Except OrdinaryException Value)
    (state : ReleaseState) :
    (call entry outcome).start state = (outcome.mapError Subtype.val, state.note entry) := rfl

@[simp] theorem start_update (transform : ReleaseState → ReleaseState) (state : ReleaseState) :
    (update transform).start state = (.ok (), transform state) := rfl

@[simp] theorem start_inspect (read : ReleaseState → Value) (state : ReleaseState) :
    (inspect read).start state = (.ok (read state), state) := rfl

end Scripted

/-! ## The clean-up -/

namespace ReleaseScript

variable {Result : Type} (script : ReleaseScript Result)

/-- A read of `is_connected`, noted with its result. -/
def readConnected (state : ReleaseState) : ReleaseState :=
  state.note (.isConnected (script.isConnected state.calls))

@[simp] theorem start_isConnected (state : ReleaseState) :
    Scripted.start script.primitives.isConnected state =
      (.ok (script.isConnected state.calls), script.readConnected state) := rfl

@[simp] theorem start_takeWorker (state : ReleaseState) :
    Scripted.start script.primitives.takeWorker state =
      (.ok state.hasWorker, { state with hasWorker := false }) := rfl

theorem start_stop (state : ReleaseState) :
    Scripted.start script.primitives.stop state =
      (.ok (), { state with hasWorker := false }.note .stopNotify) := by
  have stopNotify : ∀ state : ReleaseState,
      Scripted.start (tryCatch script.primitives.stopNotify fun error =>
        if error.isOrdinary then pure () else throw error) state =
        (.ok (), state.note .stopNotify) := by
    intro state
    rw [Scripted.start_tryCatch]
    cases ended : script.stopNotify with
    | ok _ => simp [primitives, ended, Except.mapError]
    | error error => simp [primitives, ended, Except.mapError, error.property]
  have awaitWorker : ∀ state : ReleaseState,
      Scripted.start (tryCatch script.primitives.awaitWorker fun error =>
        if error = .cancelledError then pure () else throw error) state = (.ok (), state) :=
    fun _ => rfl
  unfold SessionPrimitives.stop
  rw [Scripted.start_bind, start_takeWorker]
  dsimp only
  cases state.hasWorker with
  | false => exact stopNotify { state with hasWorker := false }
  | true =>
      simp only [reduceIte, Scripted.start_bind, awaitWorker]
      exact stopNotify { state with hasWorker := false }

/-- The state after `disconnect` was called. -/
def disconnecting (session : Bool) (state : ReleaseState) : ReleaseState :=
  (if session then { state with hasWorker := false }.note .stopNotify else state).note .disconnect

/-- `is_connected` was read some more times, with these results. -/
def reporting (reports : List Bool) (state : ReleaseState) : ReleaseState :=
  { state with calls := state.calls ++ reports.map .isConnected }

/-- How the clean-up ends, given what `is_connected` reported after the
disconnect attempt. -/
def CleanupEnds (reports : List Bool) (outcome : Raises Unit) : Prop :=
  if true ∈ reports then ∃ message, outcome = .error (.tiltBleCleanupError message)
  else outcome = .ok ()

/-- The clean-up calls `disconnect` once and ends by what `is_connected` reports
after it: an exception of `disconnect` itself does not count. -/
theorem start_closeBleClient (session : Bool) (state : ReleaseState) :
    ∃ reports outcome, CleanupEnds reports outcome ∧
      Scripted.start (script.primitives.closeBleClient session) state =
        (outcome, reporting reports (disconnecting session state)) := by
  have stopped : Scripted.start (if session then script.primitives.stop else pure ()) state =
      (.ok (), if session then { state with hasWorker := false }.note .stopNotify
        else state) := by
    cases session with
    | false => rfl
    | true => exact script.start_stop state
  have disconnects : Scripted.start script.primitives.disconnect
        (if session then { state with hasWorker := false }.note .stopNotify else state) =
      (script.disconnect.mapError Subtype.val, disconnecting session state) := rfl
  generalize disconnecting session state = disconnected at disconnects
  unfold SessionPrimitives.closeBleClient
  rw [Scripted.start_bind, Scripted.start_tryFinally, stopped, Scripted.start_tryCatch,
    disconnects]
  -- the last read, which both ways out of `disconnect` come to
  have lastRead : ∀ state : ReleaseState, ∃ last outcome, CleanupEnds [last] outcome ∧
      Scripted.start (do
        let connected ← script.primitives.isConnected
        if connected then
          throw (.tiltBleCleanupError "Tilt BLE client remained connected after disconnect."))
        state = (outcome, reporting [last] state) := by
    intro state
    rw [Scripted.start_bind, start_isConnected, readConnected]
    cases script.isConnected state.calls with
    | true => exact ⟨true, _, ⟨_, rfl⟩, rfl⟩
    | false => exact ⟨false, _, rfl, rfl⟩
  cases script.disconnect with
  | ok _ =>
      rcases lastRead disconnected with ⟨last, outcome, ends, ended⟩
      exact ⟨[last], outcome, ends, ended⟩
  | error error =>
      dsimp only [Except.mapError]
      rw [if_pos error.property, Scripted.start_bind, start_isConnected, readConnected]
      cases script.isConnected disconnected.calls with
      | true => exact ⟨[true], _, ⟨_, rfl⟩, rfl⟩
      | false =>
          rcases lastRead (disconnected.note (.isConnected false)) with
            ⟨last, outcome, ends, ended⟩
          refine ⟨[false, last], outcome, ?_, ?_⟩
          · simpa [CleanupEnds] using ends
          · simpa [reporting, ReleaseState.note] using ended

/-! ## The body -/

/-- The body from the check after `connect` on. -/
def checkedBody (shadeId : String) : Scripted Result := do
  let connected ← script.primitives.isConnected
  if connected = false then
    throw (.tiltBleError ("Unable to connect to configured shade " ++ shadeId ++ "."))
  script.primitives.createSession
  script.primitives.start
  script.primitives.authenticate
  Scripted.call .operation script.operation

theorem body_eq (shadeId : String) :
    script.body shadeId = script.primitives.isConnected >>= fun connected =>
      if connected = false then
        script.primitives.connect >>= fun _ => script.checkedBody shadeId
      else script.checkedBody shadeId := rfl

/-- The state of `_run_session` when the client has been obtained. -/
def obtained : ReleaseState := ⟨[.clientFactory], false, false⟩

/-- The outcome of the body by itself. -/
def bodyOutcome (shadeId : String) : Raises Result :=
  ((script.body shadeId).start obtained).1

def raised {Value : Type} (outcome : Except OrdinaryException Value) : Raises Value :=
  outcome.mapError Subtype.val

/-- The calls before the check after `connect`. -/
def callsBeforeCheck : List ReleaseCall :=
  if script.isConnected obtained.calls then [.clientFactory, .isConnected true]
  else [.clientFactory, .isConnected false, .connect]

/-- The first exception from the check on, or the operation's result. -/
def firstExceptionFrom (shadeId : String) (connected : Bool) : Raises Result := do
  if connected = false then
    throw (.tiltBleError ("Unable to connect to configured shade " ++ shadeId ++ "."))
  raised script.startNotify
  raised script.authenticate
  raised script.operation

/-- The first exception in the order of the body, or the operation's result. -/
def firstException (shadeId : String) : Raises Result := do
  if script.isConnected obtained.calls = false then raised script.connect
  script.firstExceptionFrom shadeId (script.isConnected script.callsBeforeCheck)

/-- What the body leaves behind. -/
structure BodyLeaves (outcome : Raises Result) (state : ReleaseState) : Prop where
  notDisconnected : .disconnect ∉ state.calls
  session : .createSession ∈ state.calls → state.hasSession = true
  operated : ∀ value, outcome = .ok value ↔
    .operation ∈ state.calls ∧ script.operation = .ok value

def Leaves (code : Scripted Result) (state : ReleaseState) : Prop :=
  script.BodyLeaves (code.start state).1 (code.start state).2

/-- The body has not come to the operation yet. -/
structure Begun (state : ReleaseState) : Prop where
  notDisconnected : .disconnect ∉ state.calls
  session : .createSession ∈ state.calls → state.hasSession = true
  notOperated : .operation ∉ state.calls

variable {script} {state : ReleaseState} {Value : Type}

theorem Begun.failed (begun : Begun state) (error : PythonException) :
    script.Leaves (throw error) state := by
  refine ⟨begun.notDisconnected, begun.session, fun value => ?_⟩
  exact iff_of_false nofun fun operated => begun.notOperated operated.1

theorem Begun.note (begun : Begun state) {entry : ReleaseCall}
    (harmless : entry ≠ .disconnect ∧ entry ≠ .operation)
    (session : entry = .createSession → state.hasSession = true) : Begun (state.note entry) := by
  refine ⟨?_, ?_, ?_⟩
  · intro member
    rcases List.mem_append.mp member with earlier | last
    · exact begun.notDisconnected earlier
    · exact harmless.1 (List.mem_singleton.mp last).symm
  · intro member
    rcases List.mem_append.mp member with earlier | last
    · exact begun.session earlier
    · exact session (List.mem_singleton.mp last).symm
  · intro member
    rcases List.mem_append.mp member with earlier | last
    · exact begun.notOperated earlier
    · exact harmless.2 (List.mem_singleton.mp last).symm

theorem Begun.call (begun : Begun state) (entry : ReleaseCall)
    (harmless : entry ≠ .disconnect ∧ entry ≠ .operation)
    (session : entry = .createSession → state.hasSession = true)
    {outcome : Except OrdinaryException Value} {rest : Value → Scripted Result}
    (continues : ∀ value, Begun (state.note entry) →
      script.Leaves (rest value) (state.note entry)) :
    script.Leaves (Scripted.call entry outcome >>= rest) state := by
  have noted := begun.note harmless session
  unfold Leaves
  rw [Scripted.start_bind, Scripted.start_call]
  cases outcome with
  | error error => exact noted.failed error.val
  | ok value => exact continues value noted

theorem Begun.isConnected (begun : Begun state) {rest : Bool → Scripted Result}
    (continues : ∀ connected later, Begun later → script.Leaves (rest connected) later) :
    script.Leaves (script.primitives.isConnected >>= rest) state := by
  have noted : Begun (script.readConnected state) := begun.note ⟨nofun, nofun⟩ nofun
  unfold Leaves
  rw [Scripted.start_bind, start_isConnected]
  exact continues _ _ noted

theorem Begun.operation (begun : Begun state) :
    script.Leaves (Scripted.call .operation script.operation) state := by
  refine ⟨?_, ?_, ?_⟩
  · simpa [ReleaseState.note] using begun.notDisconnected
  · simpa [ReleaseState.note] using begun.session
  · intro value
    cases script.operation <;> simp [ReleaseState.note, Except.mapError]

variable (script)

theorem checkedBody_leaves (shadeId : String) (begun : Begun state) :
    script.Leaves (script.checkedBody shadeId) state := by
  apply begun.isConnected
  intro connected later begun
  cases connected with
  | false => exact begun.failed _
  | true =>
      have created : Begun { later with hasSession := true } :=
        ⟨begun.notDisconnected, fun _ => rfl, begun.notOperated⟩
      rw [if_neg nofun]
      apply created.call .createSession ⟨nofun, nofun⟩ (fun _ => rfl)
      intro _ begun
      rw [SessionPrimitives.start, bind_assoc]
      apply begun.call .startNotify ⟨nofun, nofun⟩ nofun
      intro _ begun
      have working : Begun { (({ later with hasSession := true }.note .createSession).note
          .startNotify) with hasWorker := true } :=
        ⟨begun.notDisconnected, begun.session, begun.notOperated⟩
      apply working.call .authenticate ⟨nofun, nofun⟩ nofun
      intro _ begun
      exact begun.operation

theorem body_leaves (shadeId : String) : script.Leaves (script.body shadeId) obtained := by
  have begun : Begun obtained := ⟨by decide, by decide, by decide⟩
  rw [body_eq]
  apply begun.isConnected
  intro isConnected later begun
  cases isConnected with
  | true => exact script.checkedBody_leaves shadeId begun
  | false =>
      rw [if_pos rfl]
      exact begun.call .connect ⟨nofun, nofun⟩ nofun fun _ begun =>
        script.checkedBody_leaves shadeId begun

theorem checkedBody_outcome (shadeId : String) (state : ReleaseState) :
    ((script.checkedBody shadeId).start state).1 =
      script.firstExceptionFrom shadeId (script.isConnected state.calls) := by
  unfold checkedBody firstExceptionFrom
  rw [Scripted.start_bind, start_isConnected]
  cases script.isConnected state.calls with
  | false => rfl
  | true =>
      simp only [Bool.true_eq_false, reduceIte, SessionPrimitives.start, bind_assoc]
      rcases script with ⟨isConnected, connect, startNotify, authenticate, operation, _, _⟩
      cases startNotify with
      | error error => rfl
      | ok _ =>
          cases authenticate with
          | error error => rfl
          | ok _ => cases operation <;> rfl

theorem bodyOutcome_eq (shadeId : String) :
    script.bodyOutcome shadeId = script.firstException shadeId := by
  unfold bodyOutcome firstException
  rw [body_eq, Scripted.start_bind, start_isConnected, readConnected]
  cases reported : script.isConnected obtained.calls with
  | true =>
      have calls : script.callsBeforeCheck = (obtained.note (.isConnected true)).calls := by
        rw [callsBeforeCheck, reported]
        rfl
      rw [calls]
      exact script.checkedBody_outcome shadeId _
  | false =>
      have calls : script.callsBeforeCheck =
          ((obtained.note (.isConnected false)).note .connect).calls := by
        rw [callsBeforeCheck, reported]
        rfl
      rw [calls]
      have rest := script.checkedBody_outcome shadeId
        ((obtained.note (.isConnected false)).note .connect)
      have connects :
          Scripted.start script.primitives.connect (obtained.note (.isConnected false)) =
        (raised script.connect, (obtained.note (.isConnected false)).note .connect) := rfl
      dsimp only
      rw [if_pos rfl, if_pos rfl, Scripted.start_bind, connects]
      cases script.connect with
      | error error => rfl
      | ok _ => exact rest

/-! ## The whole call -/

/-- The outcome of `_run_session`, and its calls in order. -/
def ended (shadeId : String) : Raises Result × List ReleaseCall :=
  let run := (script.runSession shadeId).start ⟨[], false, false⟩
  (run.1, run.2.calls)

end ReleaseScript

/-- The client still reports itself connected after the disconnect attempt. -/
def StillConnected (calls : List ReleaseCall) : Prop :=
  .isConnected true ∈ calls.dropWhile fun call => call ≠ .disconnect

namespace ReleaseScript

variable {Result : Type} (script : ReleaseScript Result)

/-- The body, then the clean-up with the session that the body left behind. -/
theorem ended_eq (shadeId : String) :
    ∃ state reports cleaned,
      script.BodyLeaves (script.bodyOutcome shadeId) state ∧ CleanupEnds reports cleaned ∧
        script.ended shadeId =
          (match cleaned with
            | .ok _ => script.bodyOutcome shadeId
            | .error error => .error error,
            (reporting reports (disconnecting state.hasSession state)).calls) := by
  have leaves := script.body_leaves shadeId
  unfold Leaves at leaves
  rcases ran : (script.body shadeId).start obtained with ⟨outcome, state⟩
  rw [ran] at leaves
  rcases script.start_closeBleClient state.hasSession state with ⟨reports, cleaned, ends, closed⟩
  have sameOutcome : script.bodyOutcome shadeId = outcome := by rw [bodyOutcome, ran]
  refine ⟨state, reports, cleaned, sameOutcome ▸ leaves, ends, ?_⟩
  have begins : ∀ rest : Scripted Result,
      Scripted.start (do
        script.primitives.clientFactory
        script.primitives.forgetSession
        rest) ⟨[], false, false⟩ = rest.start obtained := fun _ => rfl
  have cleansUp : Scripted.start (do
        let session ← script.primitives.hasSession
        script.primitives.awaitCancellationSafeCleanup
          (script.primitives.closeBleClient session)) state =
      (cleaned, reporting reports (disconnecting state.hasSession state)) := closed
  have released : ∀ state : ReleaseState,
      Scripted.start script.primitives.releaseBleLock state = (.ok (), state) := fun _ => rfl
  have acquired : ∀ state : ReleaseState,
      Scripted.start script.primitives.acquireBleLock state = (.ok (), state) := fun _ => rfl
  unfold body at ran
  unfold ended runSession SessionPrimitives.runSession
  rw [sameOutcome, Scripted.start_bind, acquired]
  dsimp only
  rw [Scripted.start_tryFinally, begins, Scripted.start_tryFinally, ran]
  dsimp only
  rw [cleansUp]
  cases cleaned with
  | ok _ => rw [released]
  | error error => rw [released]

/-- The client is released on every way out: `disconnect` is called once, after
the notifications were stopped if there was a session, a client that still
reports itself connected is an error of its own, and otherwise the call ends as
its body did. -/
theorem runSession_releases (shadeId : String) :
    (script.ended shadeId).2.count .disconnect = 1 ∧
      (.createSession ∈ (script.ended shadeId).2 →
        [.stopNotify, .disconnect].Sublist (script.ended shadeId).2) ∧
      (StillConnected (script.ended shadeId).2 →
        ∃ message, (script.ended shadeId).1 = .error (.tiltBleCleanupError message)) ∧
      (¬StillConnected (script.ended shadeId).2 →
        (script.ended shadeId).1 = script.firstException shadeId) ∧
      ∀ value, (script.ended shadeId).1 = .ok value ↔
        .operation ∈ (script.ended shadeId).2 ∧ script.operation = .ok value ∧
          ¬StillConnected (script.ended shadeId).2 := by
  rcases script.ended_eq shadeId with ⟨state, reports, cleaned, leaves, ends, same⟩
  rw [same, ← bodyOutcome_eq]
  have split : (reporting reports (disconnecting state.hasSession state)).calls =
      state.calls ++ ((if state.hasSession then [.stopNotify] else []) ++
        .disconnect :: reports.map .isConnected) := by
    cases state.hasSession <;>
      simp [reporting, disconnecting, ReleaseState.note]
  have still : StillConnected (reporting reports (disconnecting state.hasSession state)).calls ↔
      true ∈ reports := by
    have body : ∀ call ∈ state.calls, decide (call ≠ .disconnect) = true := by
      intro call member
      apply decide_eq_true
      rintro rfl
      exact leaves.notDisconnected member
    rw [StillConnected, split, List.dropWhile_append_of_pos body]
    cases state.hasSession <;> simp
  have operated : .operation ∈ (reporting reports (disconnecting state.hasSession state)).calls ↔
      .operation ∈ state.calls := by
    rw [split]
    cases state.hasSession <;> simp
  rw [still, operated]
  refine ⟨?_, ?_, ?_, ?_, ?_⟩
  · have body := List.count_eq_zero.mpr leaves.notDisconnected
    rw [split]
    cases state.hasSession <;> simp [body, List.count_eq_zero]
  · intro created
    have session : state.hasSession = true := by
      apply leaves.session
      rw [split] at created
      revert created
      cases state.hasSession <;> simp
    rw [split, session]
    exact List.Sublist.trans (by simp) (List.sublist_append_right _ _)
  · intro connected
    rw [CleanupEnds, if_pos connected] at ends
    rcases ends with ⟨message, rfl⟩
    exact ⟨message, rfl⟩
  · intro disconnected
    rw [CleanupEnds, if_neg disconnected] at ends
    rw [ends]
  · intro value
    by_cases connected : true ∈ reports
    · rw [CleanupEnds, if_pos connected] at ends
      rcases ends with ⟨message, rfl⟩
      exact iff_of_false nofun fun returned => returned.2.2 connected
    · rw [CleanupEnds, if_neg connected] at ends
      rw [ends]
      simp only [leaves.operated value, connected, not_false_eq_true, and_true]

end ReleaseScript

end SmartblindsBle
