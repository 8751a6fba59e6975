import SmartblindsBle.Foundation.ProofOutlines
import SmartblindsBle.Tilt.Transcript
import SmartblindsBle.Tilt.CodecErrors

/-! # The resources of a session

The queues of a session are bounded, a future is registered only while its chunk is
written and awaited, and the worker runs from the start of the notifications to the
clean-up. Nothing of this depends on what the shade sends or on what fails.
-/

namespace SmartblindsBle

open Foundation

namespace TiltBleSession

/-- Neither queue has more items than it was created for. -/
structure QueuesBounded (session : TiltBleSession) : Prop where
  notifications : session.notificationQueue.length ≤ notificationQueueSize
  responses : session.responseQueue.length ≤ responseQueueSize

theorem queuesBounded_initial : initial.QueuesBounded :=
  ⟨Nat.zero_le _, Nat.zero_le _⟩

/-- Another task neither registers nor removes a waiter, neither starts nor ends the worker,
and keeps the queues bounded. -/
structure Undisturbed (before after : TiltBleSession) : Prop where
  waiters : ∀ sequence, (after.ackWaiters sequence).isSome = (before.ackWaiters sequence).isSome
  worker : after.worker.isSome = before.worker.isSome
  queues : before.QueuesBounded → after.QueuesBounded

namespace Undisturbed

theorem refl (session : TiltBleSession) : session.Undisturbed session :=
  ⟨fun _ => rfl, rfl, id⟩

theorem trans {first middle last : TiltBleSession} (earlier : first.Undisturbed middle)
    (later : middle.Undisturbed last) : first.Undisturbed last where
  waiters sequence := (later.waiters sequence).trans (earlier.waiters sequence)
  worker := later.worker.trans earlier.worker
  queues bounded := later.queues (earlier.queues bounded)

end Undisturbed

/-! ## The callback and the worker -/

theorem fail_undisturbed (error : OrdinaryException) (session : TiltBleSession) :
    session.Undisturbed (session.fail error) := by
  constructor
  · intro sequence
    exact Option.isSome_map
  · rfl
  · intro bounded
    refine ⟨bounded.notifications, ?_⟩
    unfold fail
    dsimp only
    split
    · next hasRoom =>
        rw [List.length_append, List.length_singleton]
        exact hasRoom
    · exact bounded.responses

theorem workerRaised_undisturbed {error : PythonException} (isOrdinary : error.isOrdinary = true)
    (session : TiltBleSession) : session.Undisturbed (session.workerRaised error) := by
  rw [workerRaised, dif_pos isOrdinary]
  exact fail_undisturbed _ session

theorem notificationReceived_undisturbed (data : Bytes) (session : TiltBleSession) :
    session.Undisturbed (session.notificationReceived data) := by
  unfold notificationReceived
  split
  · next hasRoom =>
      refine ⟨fun _ => rfl, rfl, ?_⟩
      intro bounded
      refine ⟨?_, bounded.responses⟩
      rw [List.length_append, List.length_singleton]
      exact hasRoom
  · exact fail_undisturbed _ session

theorem take_undisturbed {data : Bytes} {rest : List Bytes} {session : TiltBleSession}
    (isQueued : session.notificationQueue = data :: rest) :
    session.Undisturbed { session with notificationQueue := rest } := by
  refine ⟨fun _ => rfl, rfl, ?_⟩
  intro bounded
  refine ⟨?_, bounded.responses⟩
  have queued := bounded.notifications
  rw [isQueued, List.length_cons] at queued
  exact Nat.le_of_succ_le queued

theorem acknowledgeWaiter_undisturbed (sequence : Nat) (session : TiltBleSession) :
    session.Undisturbed (session.acknowledgeWaiter sequence) := by
  refine ⟨?_, rfl, fun bounded => ⟨bounded.notifications, bounded.responses⟩⟩
  intro key
  unfold acknowledgeWaiter
  dsimp only
  split
  · exact Option.isSome_map
  · rfl

theorem malformed_isOrdinary {Value : Type} {outcome : Raises Value} {error : PythonException}
    (raises : RaisesOnly (·.isMalformed = true) outcome) (failed : outcome = .error error) :
    error.isOrdinary = true :=
  PythonException.isOrdinary_of_isTiltProtocolError (malformed_errors raises error failed)

theorem handleNotification_undisturbed (data : Bytes) {session : TiltBleSession}
    (isRunning : session.worker.isSome = true) :
    session.Undisturbed (session.handleNotification data).1 := by
  have moved : ∀ assembler, session.Undisturbed { session with assembler := assembler } :=
    fun _ => ⟨fun _ => rfl, rfl, fun bounded => ⟨bounded.notifications, bounded.responses⟩⟩
  unfold handleNotification
  split
  · next error failed =>
      exact workerRaised_undisturbed (malformed_isOrdinary (parseBleChunk_raises data) failed) _
  · split
    · split
      · next error failed =>
          exact workerRaised_undisturbed (malformed_isOrdinary (parseBleAck_raises data) failed) _
      · exact acknowledgeWaiter_undisturbed _ _
    · split
      · next assembler error failed =>
          have raised := malformed_isOrdinary (add_raises session.assembler data)
            (congrArg Prod.snd failed)
          exact (moved assembler).trans (workerRaised_undisturbed raised _)
      · split
        · next error failed =>
            have raised := malformed_isOrdinary (makeBleAck_raises _) failed
            exact (moved _).trans (workerRaised_undisturbed raised _)
        · refine ⟨fun _ => rfl, isRunning.symm, ?_⟩
          exact fun bounded => ⟨bounded.notifications, bounded.responses⟩

theorem acknowledgementWritten_undisturbed {outcome : Raises Unit} (isOrdinary : Ordinary outcome)
    (message : Option Bytes) {session : TiltBleSession}
    (isRunning : session.worker.isSome = true) :
    session.Undisturbed (session.acknowledgementWritten outcome message) := by
  have waits : session.Undisturbed { session with worker := some .waiting } :=
    ⟨fun _ => rfl, isRunning.symm, fun bounded => ⟨bounded.notifications, bounded.responses⟩⟩
  unfold acknowledgementWritten
  cases outcome with
  | error error => exact waits.trans (workerRaised_undisturbed (isOrdinary error rfl) _)
  | ok _ =>
      cases message with
      | none => exact waits
      | some message =>
          dsimp only
          split
          · next hasRoom =>
              refine ⟨fun _ => rfl, isRunning.symm, ?_⟩
              intro bounded
              refine ⟨bounded.notifications, ?_⟩
              rw [List.length_append, List.length_singleton]
              exact hasRoom
          · exact waits.trans (workerRaised_undisturbed rfl _)

end TiltBleSession

theorem ordinary_of_not_cancelled {Result : Type} {outcome : Raises Result}
    (notCancelled : outcome = .error .cancelledError → False) : Ordinary outcome := by
  intro error failed
  cases error with
  | cancelledError => exact absurd failed notCancelled
  | _ => rfl

/-! ## What a suspended task relies on -/

namespace World

/-- Another task leaves the resources of the caller's session alone. -/
structure Undisturbed (before after : World) : Prop where
  session : before.session.Undisturbed after.session
  hasSession : after.hasSession = before.hasSession

theorem Undisturbed.refl (world : World) : world.Undisturbed world :=
  ⟨.refl world.session, rfl⟩

theorem Undisturbed.trans {first middle last : World} (earlier : first.Undisturbed middle)
    (later : middle.Undisturbed last) : first.Undisturbed last :=
  ⟨earlier.session.trans later.session, later.hasSession.trans earlier.hasSession⟩

theorem background_undisturbed {action : Background} {before after : World}
    (stepped : World.background action before = some after) : before.Undisturbed after := by
  cases action with
  | notify data =>
      simp only [World.background, Option.ite_none_right_eq_some, Option.some.injEq] at stepped
      rcases stepped with ⟨_, rfl⟩
      exact ⟨TiltBleSession.notificationReceived_undisturbed data _, rfl⟩
  | work =>
      simp only [World.background] at stepped
      split at stepped
      · next data rest isWaiting isQueued =>
          have taken := TiltBleSession.take_undisturbed isQueued
          have isRunning : before.session.worker.isSome = true := by rw [isWaiting]; rfl
          have handled := taken.trans
            (@TiltBleSession.handleNotification_undisturbed data
              { before.session with notificationQueue := rest } isRunning)
          split at stepped
          · cases stepped
            exact ⟨handled, rfl⟩
          · cases stepped
            exact ⟨handled, rfl⟩
      · cases stepped
  | workWritten outcome =>
      simp only [World.background] at stepped
      split at stepped
      · cases stepped
      · next message writing notCancelled =>
          cases stepped
          have isRunning : before.session.worker.isSome = true := by rw [writing]; rfl
          have isOrdinary := ordinary_of_not_cancelled notCancelled
          exact ⟨TiltBleSession.acknowledgementWritten_undisturbed isOrdinary message isRunning,
            rfl⟩
      · cases stepped

/-- An operation is answered with an item of the response queue, or nothing changes. -/
theorem answer_undisturbed {operation : Operation} {choice : Choice} {world after : World}
    {reply : Raises operation.Reply}
    (answered : World.answer operation choice world = some (reply, after)) :
    world.Undisturbed after := by
  by_cases isResponse : operation = .getResponse
  · subst isResponse
    cases choice with
    | completed =>
        simp only [World.answer, World.complete] at answered
        cases queued : world.session.responseQueue with
        | nil =>
            rw [queued] at answered
            cases answered
        | cons item rest =>
            rw [queued] at answered
            have taken :
                world.session.Undisturbed { world.session with responseQueue := rest } := by
              refine ⟨fun _ => rfl, rfl, ?_⟩
              intro bounded
              have fits := bounded.responses
              rw [queued, List.length_cons] at fits
              exact ⟨bounded.notifications, Nat.le_of_succ_le fits⟩
            cases item with
            | message frame =>
                cases answered
                exact ⟨taken, rfl⟩
            | exception error =>
                cases answered
                exact ⟨taken, rfl⟩
    | timedOut =>
        cases answered
        exact .refl world
    | failed error => cases answered
    | connected connected => cases answered
  · rw [(World.answer_cases isResponse answered).1]
    exact .refl world

theorem enter_undisturbed (operation : Operation) (world : World) :
    world.Undisturbed (World.enter operation world) := by
  cases operation with
  | writeGattChar data => exact ⟨.refl world.session, rfl⟩
  | _ => exact .refl world

end World

/-! ## Where the caller's task may stand -/

/-- The number of the chunk whose future is registered while the task is suspended here. -/
def Operation.awaitedSequence? : Operation → Option Nat
  | .writeGattChar chunk => some (chunk.getD 1 0 &&& 0x3F).toNat
  | .waitAck sequence => some sequence
  | _ => none

/-- The operations of an exchange with the shade. -/
def Operation.isExchange : Operation → Bool
  | .writeGattChar _ | .waitAck _ | .getResponse => true
  | _ => false

/-- The operations before the start of the worker and after its end. -/
def Operation.isOutsideWorker : Operation → Bool
  | .acquireBleLock | .clientFactory | .connect | .startNotify | .awaitWorker | .stopNotify
  | .disconnect => true
  | _ => false

/-- What the caller holds: whether it has a session, the number of the chunk it waits for, and
whether a worker is running. -/
structure World.Holds (opened : Bool) (awaited : Option Nat) (running : Bool) (world : World) :
    Prop where
  opened : world.hasSession = opened
  waiters : ∀ sequence,
    (world.session.ackWaiters sequence).isSome = true ↔ awaited = some sequence
  worker : world.session.worker.isSome = running
  queues : world.session.QueuesBounded

/-- While the caller is suspended, the future of the chunk that it is sending is registered and
no other, and the worker is there for the exchanges. -/
structure World.Stands (operation : Operation) (world : World) : Prop where
  waiters : ∀ sequence,
    (world.session.ackWaiters sequence).isSome = true ↔
      operation.awaitedSequence? = some sequence
  exchanging : operation.isExchange = true → world.session.worker.isSome = true
  outside : operation.isOutsideWorker = true → world.session.worker = none
  queues : world.session.QueuesBounded

/-- When the caller has ended, nothing is left. -/
structure World.Released (world : World) : Prop where
  waiters : ∀ sequence, world.session.ackWaiters sequence = none
  worker : world.session.worker = none
  queues : world.session.QueuesBounded

namespace World.Holds

variable {opened running : Bool} {awaited : Option Nat}

theorem undisturbed {before after : World} (holds : before.Holds opened awaited running)
    (same : before.Undisturbed after) : after.Holds opened awaited running where
  opened := same.hasSession.trans holds.opened
  waiters sequence := by
    rw [same.session.waiters]
    exact holds.waiters sequence
  worker := same.session.worker.trans holds.worker
  queues := same.session.queues holds.queues

theorem released {world : World} (holds : world.Holds opened none false) : world.Released where
  waiters sequence := by
    have absent := mt (holds.waiters sequence).mp nofun
    exact Option.not_isSome_iff_eq_none.mp absent
  worker := by
    have stopped := holds.worker
    rwa [Option.isSome_eq_false_iff, Option.isNone_iff_eq_none] at stopped
  queues := holds.queues

theorem initial : World.initial.Holds false none false where
  opened := rfl
  waiters _ := ⟨nofun, nofun⟩
  worker := rfl
  queues := TiltBleSession.queuesBounded_initial

end World.Holds

def sessionOutline : Outline World Operation where
  rely := ⟨World.Undisturbed, World.Undisturbed.refl, World.Undisturbed.trans⟩
  guarantee := ⟨fun _ _ => True, fun _ => trivial, fun _ _ => trivial⟩
  during operation world := world.Stands operation
  ended := World.Released
  endedStable before after same ended := by
    have holds : before.Holds before.hasSession none false := by
      refine ⟨rfl, ?_, ?_, ended.queues⟩
      · intro sequence
        rw [ended.waiters]
        exact ⟨nofun, nofun⟩
      · rw [ended.worker]
        rfl
    exact (holds.undisturbed same).released

/-- The code keeps what the caller holds. -/
def KeepsHolding {Result : Type} (opened : Bool) (awaited : Option Nat) (running : Bool)
    (code : Async Result) : Prop :=
  code.Meets eventLoop sessionOutline (World.Holds opened awaited running)
    fun _ => World.Holds opened awaited running

namespace KeepsHolding

variable {Result Value : Type} {opened running : Bool} {awaited : Option Nat}

theorem done (outcome : Raises Result) :
    KeepsHolding opened awaited running (.done outcome : Async Result) :=
  fun _ holds => holds

theorem bind {first : Async Value} {rest : Value → Async Result}
    (keeps : KeepsHolding opened awaited running first)
    (continues : ∀ value, KeepsHolding opened awaited running (rest value)) :
    KeepsHolding opened awaited running (first >>= rest) :=
  Coroutine.Meets.bind keeps continues fun _ _ holds => holds

theorem tryCatch {body : Async Result} {handler : PythonException → Async Result}
    (keeps : KeepsHolding opened awaited running body)
    (handles : ∀ error, KeepsHolding opened awaited running (handler error)) :
    KeepsHolding opened awaited running (tryCatch body handler) :=
  Coroutine.Meets.tryCatch keeps (fun _ _ holds => holds) handles

theorem ite {condition : Prop} [Decidable condition] {first second : Async Result}
    (firstKeeps : KeepsHolding opened awaited running first)
    (secondKeeps : KeepsHolding opened awaited running second) :
    KeepsHolding opened awaited running (if condition then first else second) := by
  split
  · exact firstKeeps
  · exact secondKeeps

theorem current {rest : World → Async Result}
    (continues : ∀ world, KeepsHolding opened awaited running (rest world)) :
    KeepsHolding opened awaited running (Coroutine.current >>= rest) :=
  fun world holds => continues world world holds

theorem ofExcept (outcome : Raises Result) :
    KeepsHolding opened awaited running (Coroutine.ofExcept outcome : Async Result) :=
  done outcome

theorem record (action : Action) :
    KeepsHolding opened awaited running (TiltBleSession.record action) :=
  fun _ holds => ⟨trivial, holds.opened, holds.waiters, holds.worker, holds.queues⟩

theorem modify {transform : TiltBleSession → TiltBleSession}
    (same : ∀ session, (transform session).notificationQueue = session.notificationQueue ∧
      (transform session).responseQueue = session.responseQueue ∧
      (transform session).ackWaiters = session.ackWaiters ∧
      (transform session).worker = session.worker) :
    KeepsHolding opened awaited running (TiltBleSession.modify transform) := by
  intro world holds
  rcases same world.session with ⟨notifications, responses, waiters, worker⟩
  refine ⟨trivial, holds.opened, ?_, ?_, ?_, ?_⟩
  · intro sequence
    change ((transform world.session).ackWaiters sequence).isSome = true ↔ _
    rw [waiters]
    exact holds.waiters sequence
  · change (transform world.session).worker.isSome = running
    rw [worker]
    exact holds.worker
  · change (transform world.session).notificationQueue.length ≤ _
    rw [notifications]
    exact holds.queues.notifications
  · change (transform world.session).responseQueue.length ≤ _
    rw [responses]
    exact holds.queues.responses

theorem await {operation : Operation} (registered : operation.awaitedSequence? = awaited)
    (exchanging : operation.isExchange = true → running = true)
    (outside : operation.isOutsideWorker = true → running = false) :
    KeepsHolding opened awaited running (TiltBleSession.await operation) := by
  apply Coroutine.Meets.perform
  · intro world holds
    exact ⟨trivial, holds.undisturbed (World.enter_undisturbed operation world)⟩
  · exact fun before after holds same => holds.undisturbed same
  · intro world holds
    constructor
    · rw [registered]
      exact holds.waiters
    · intro isExchange
      rw [holds.worker]
      exact exchanging isExchange
    · intro isOutside
      have stopped := holds.worker
      rwa [outside isOutside, Option.isSome_eq_false_iff, Option.isNone_iff_eq_none] at stopped
    · exact holds.queues
  · intro world choice reply after holds answered
    exact ⟨trivial, holds.undisturbed (World.answer_undisturbed answered)⟩

end KeepsHolding

namespace TiltBleSession

/-! ## The methods of a session -/

/-- Code of a session: no chunk is on its way, and the worker runs. -/
abbrev InSession {Result : Type} (code : Async Result) : Prop := KeepsHolding true none true code

theorem attemptChunk_inSession {chunk : Bytes} {sequence : Nat}
    (numbered : sequence = (chunk.getD 1 0 &&& 0x3F).toNat) (isLast : Bool) :
    InSession (attemptChunk chunk sequence isLast) := by
  have registers : Coroutine.Meets eventLoop sessionOutline (World.Holds true none true)
      (modify (registerWaiter sequence)) fun outcome world =>
        outcome = .ok () ∧ world.Holds true (some sequence) true := by
    intro world holds
    refine ⟨trivial, rfl, holds.opened, ?_, holds.worker, ⟨holds.queues.1, holds.queues.2⟩⟩
    intro key
    change (if key = sequence then some AckWaiter.pending
      else world.session.ackWaiters key).isSome = true ↔ some sequence = some key
    split
    · next same => simp [same]
    · next other =>
        rw [holds.waiters, Option.some.injEq, eq_comm (a := sequence)]
        simp [other]
  have pops : Coroutine.Meets eventLoop sessionOutline (World.Holds true (some sequence) true)
      (modify (popWaiter sequence)) fun _ => World.Holds true none true := by
    intro world holds
    refine ⟨trivial, holds.opened, ?_, holds.worker, ⟨holds.queues.1, holds.queues.2⟩⟩
    intro key
    change (if key = sequence then none
      else world.session.ackWaiters key).isSome = true ↔ none = some key
    split
    · simp
    · next other =>
        rw [holds.waiters, Option.some.injEq, eq_comm (a := sequence)]
        simp [other]
  have sends : KeepsHolding true (some sequence) true (do
      await (.writeGattChar chunk)
      await (.waitAck sequence)
      pure true) := by
    apply KeepsHolding.bind
    · apply KeepsHolding.await
      · rw [numbered]
        rfl
      · exact fun _ => rfl
      · exact nofun
    · intro _
      apply KeepsHolding.bind
      · exact KeepsHolding.await rfl (fun _ => rfl) nofun
      · exact fun _ => KeepsHolding.done _
  apply Coroutine.Meets.bind registers
  · intro _
    refine Coroutine.Meets.tryFinally ?_ pops
    refine Coroutine.Meets.only (sends.tryCatch ?_) fun _ registered => registered.2
    intro error
    apply KeepsHolding.ite
    · exact KeepsHolding.ite (KeepsHolding.done _) (KeepsHolding.done _)
    · exact KeepsHolding.done _
  · intro error world impossible
    cases impossible.1

theorem sendChunk_inSession {chunk : Bytes} {sequence : Nat}
    (numbered : sequence = (chunk.getD 1 0 &&& 0x3F).toNat) (remaining : Nat) :
    InSession (sendChunk chunk sequence remaining) := by
  induction remaining with
  | zero => exact KeepsHolding.done _
  | succ remaining induction =>
      apply (attemptChunk_inSession numbered _).bind
      intro delivered
      exact KeepsHolding.ite (KeepsHolding.done _) induction

theorem sendChunks_inSession (retryChunks : Bool) (chunks : List Bytes) :
    InSession (sendChunks retryChunks chunks) := by
  induction chunks with
  | nil => exact KeepsHolding.done _
  | cons chunk chunks induction =>
      apply (sendChunk_inSession rfl _).bind
      intro _
      apply (KeepsHolding.record _).bind
      intro _
      apply (KeepsHolding.ofExcept _).bind
      intro next
      apply KeepsHolding.bind
      · exact KeepsHolding.modify fun _ => ⟨rfl, rfl, rfl, rfl⟩
      · exact fun _ => induction

theorem awaitResponse_inSession : InSession awaitResponse := by
  apply KeepsHolding.bind
  · apply KeepsHolding.tryCatch
    · exact KeepsHolding.await rfl (fun _ => rfl) nofun
    · exact fun _ => KeepsHolding.ite (KeepsHolding.done _) (KeepsHolding.done _)
  · intro response
    cases response <;> exact KeepsHolding.done _

theorem sendFrame_inSession (frame : Bytes) (retryChunks : Bool) :
    InSession (sendFrame frame retryChunks) := by
  apply KeepsHolding.current
  intro world
  apply KeepsHolding.ite
  · apply (KeepsHolding.ofExcept _).bind
    intro chunks
    exact (sendChunks_inSession retryChunks chunks).bind fun _ => awaitResponse_inSession
  · exact KeepsHolding.done _

theorem sleep_inSession (seconds : Rat) : InSession (await (.sleep seconds)) :=
  KeepsHolding.await rfl nofun nofun

theorem authenticate_inSession (primitives : CryptoPrimitives) (key : PairingKey) :
    InSession (authenticate primitives key) := by
  apply (sleep_inSession _).bind
  intro _
  apply (KeepsHolding.ofExcept _).bind
  intro versionsRequest
  apply (sendFrame_inSession versionsRequest true).bind
  intro versionsFrame
  apply (KeepsHolding.ofExcept _).bind
  intro selected
  apply (sleep_inSession _).bind
  intro _
  generalize encodeProtocolSelection selected.toNat = request
  apply (KeepsHolding.ofExcept request).bind
  intro selectionRequest
  apply (sendFrame_inSession selectionRequest true).bind
  intro selectionFrame
  apply (KeepsHolding.ofExcept _).bind
  intro _
  apply (sleep_inSession _).bind
  intro _
  apply (KeepsHolding.ofExcept _).bind
  intro nonceRequest
  apply (sendFrame_inSession nonceRequest true).bind
  intro nonceFrame
  apply (KeepsHolding.ofExcept _).bind
  intro nonce
  apply KeepsHolding.bind
  · exact KeepsHolding.modify fun _ => ⟨rfl, rfl, rfl, rfl⟩
  · exact fun _ => sleep_inSession _

theorem exchange_inSession (primitives : CryptoPrimitives) (key : PairingKey)
    (encode : Bytes → Int → Int → Raises Bytes) (command : ShadeCommand) (retryChunks : Bool) :
    InSession (exchange primitives key encode command retryChunks) := by
  have requires : InSession requireNonce := by
    apply KeepsHolding.current
    intro world
    split <;> exact KeepsHolding.done _
  have takes : InSession takeApplicationIds := by
    apply KeepsHolding.current
    intro world
    apply KeepsHolding.bind
    · exact KeepsHolding.modify fun _ => ⟨rfl, rfl, rfl, rfl⟩
    · exact fun _ => KeepsHolding.done _
  apply requires.bind
  intro nonce
  apply takes.bind
  intro ids
  apply (KeepsHolding.record _).bind
  intro _
  apply (KeepsHolding.ofExcept _).bind
  intro frame
  exact (sendFrame_inSession frame retryChunks).bind fun _ => KeepsHolding.ofExcept _

theorem reported_inSession {Result : Type} (note : Raises Result → Action) {body : Async Result}
    (keeps : InSession body) : InSession (reported note body) := by
  apply KeepsHolding.tryCatch
  · apply keeps.bind
    intro value
    exact (KeepsHolding.record _).bind fun _ => KeepsHolding.done _
  · intro error
    exact (KeepsHolding.record _).bind fun _ => KeepsHolding.done _

theorem readStatus_inSession (primitives : CryptoPrimitives) (key : PairingKey) :
    InSession (readStatus primitives key) := by
  apply reported_inSession
  exact (exchange_inSession primitives key _ _ _).bind fun _ => KeepsHolding.ofExcept _

theorem setPosition_inSession (primitives : CryptoPrimitives) (key : PairingKey)
    (positionPercent : PythonValue) :
    InSession (setPosition primitives key positionPercent) := by
  apply reported_inSession
  exact (exchange_inSession primitives key _ _ _).bind fun _ => KeepsHolding.done _

end TiltBleSession

/-! ## The client -/

/-- The operation of a position call reads, writes and reads again. -/
theorem positionOperation_inSession (primitives : CryptoPrimitives) (key : PairingKey)
    (percent : Int) (settleSeconds : Rat) :
    TiltBleSession.InSession
      (TiltShadeClient.positionOperation primitives key percent settleSeconds) := by
  have reads := TiltBleSession.readStatus_inSession primitives key
  have writes := TiltBleSession.setPosition_inSession primitives key (.int percent)
  have judged : ∀ (before after : ShadeStatus) (message : String), TiltBleSession.InSession
      (if after.positionPercent = percent then pure (after, true)
      else if movedToward before after percent = false then
        throw (.positionVerificationPending message after)
      else pure (after, true)) := fun _ _ _ =>
    KeepsHolding.ite (KeepsHolding.done _)
      (KeepsHolding.ite (KeepsHolding.done _) (KeepsHolding.done _))
  apply reads.bind
  intro before
  apply KeepsHolding.ite (KeepsHolding.done _)
  apply KeepsHolding.bind
  · apply KeepsHolding.tryCatch
    · exact writes.bind fun _ => KeepsHolding.done _
    · exact fun _ => KeepsHolding.ite (KeepsHolding.done _) (KeepsHolding.done _)
  · intro written
    apply KeepsHolding.ite
    · apply KeepsHolding.bind
      · apply reads.tryCatch
        exact fun _ => KeepsHolding.ite (KeepsHolding.done _) (KeepsHolding.done _)
      · exact fun after => judged before after _
    · have settles : TiltBleSession.InSession (do
          let after ← TiltBleSession.readStatus primitives key
          if after.positionPercent = percent then pure (after, true)
          else if movedToward before after percent = false then
            throw (.positionVerificationPending
              ("Position write completed and the responding shade did not move " ++
                "toward the target.") after)
          else pure (after, true)) := reads.bind fun after => judged before after _
      exact KeepsHolding.ite ((TiltBleSession.sleep_inSession _).bind fun _ => settles) settles

/-- In `_run_session` a worker runs only for a session. -/
def World.Engaged (world : World) : Prop :=
  ∃ opened running, (running = true → opened = true) ∧ world.Holds opened none running

theorem World.Holds.engaged {opened running : Bool} {world : World}
    (holds : world.Holds opened none running) (workerHasSession : running = true → opened = true) :
    world.Engaged :=
  ⟨opened, running, workerHasSession, holds⟩

theorem World.Released.holds {world : World} (released : world.Released) :
    world.Holds world.hasSession none false where
  opened := rfl
  waiters sequence := by
    rw [released.waiters]
    exact ⟨nofun, nofun⟩
  worker := by
    rw [released.worker]
    rfl
  queues := released.queues

section Client

variable (primitives : CryptoPrimitives) (client : TiltShadeClient) {Result Value : Type}

/-- Code that runs between the sessions. -/
def BetweenSessions (code : Async Result) : Prop :=
  code.Meets eventLoop sessionOutline World.Released fun _ => World.Released

theorem KeepsHolding.betweenSessions {code : Async Result}
    (keeps : ∀ opened, KeepsHolding opened none false code) : BetweenSessions code :=
  fun world released => (keeps world.hasSession world released.holds).weaken
    fun _ _ holds => holds.released

theorem BetweenSessions.bind {first : Async Value} {rest : Value → Async Result}
    (between : BetweenSessions first) (continues : ∀ value, BetweenSessions (rest value)) :
    BetweenSessions (first >>= rest) :=
  Coroutine.Meets.bind between continues fun _ _ released => released

theorem BetweenSessions.done (outcome : Raises Result) :
    BetweenSessions (.done outcome : Async Result) :=
  fun _ released => released

/-- The session is created and its worker started; from then on it is the code of a session. -/
theorem sessionBody_engaged {shadeId : String} {operation : Async Result}
    (inSession : TiltBleSession.InSession operation) :
    ((callPrimitives primitives client.pairingKey).sessionBody shadeId operation).Meets eventLoop
      sessionOutline (World.Holds false none false) fun _ => World.Engaged := by
  have ends : ∀ world : World, world.Holds false none false → world.Engaged :=
    fun _ holds => holds.engaged nofun
  have connects : ∀ operation : Operation, operation.awaitedSequence? = none →
      operation.isExchange = false →
      KeepsHolding false none false (TiltBleSession.await operation) := by
    intro operation notAwaited notExchange
    apply KeepsHolding.await notAwaited
    · intro isExchange
      cases notExchange.symm.trans isExchange
    · exact fun _ => rfl
  have creates : Coroutine.Meets eventLoop sessionOutline (World.Holds false none false)
      (callPrimitives primitives client.pairingKey).createSession fun outcome world =>
        outcome = .ok () ∧ world.Holds true none false := by
    intro world holds
    refine ⟨trivial, trivial, rfl, rfl, ?_, rfl, ?_⟩
    · exact fun _ => ⟨nofun, nofun⟩
    · exact TiltBleSession.queuesBounded_initial
  have starts : Coroutine.Meets eventLoop sessionOutline (World.Holds true none false)
      (callPrimitives primitives client.pairingKey).start fun outcome world => match outcome with
        | .ok _ => world.Holds true none true
        | .error _ => world.Holds true none false := by
    apply Coroutine.Meets.bind
    · exact (KeepsHolding.await rfl nofun fun _ => rfl :
        KeepsHolding true none false (TiltBleSession.await .startNotify))
    · intro _ world holds
      exact ⟨trivial, holds.opened, holds.waiters, rfl, holds.queues.1, holds.queues.2⟩
    · exact fun _ _ holds => holds
  have opens : Coroutine.Meets eventLoop sessionOutline (World.Holds false none false)
      (do
        let connected ← (callPrimitives primitives client.pairingKey).isConnected
        if connected = false then
          throw (.tiltBleError
            ("Unable to connect to configured shade " ++ shadeId ++ "."))
        (callPrimitives primitives client.pairingKey).createSession
        (callPrimitives primitives client.pairingKey).start
        (callPrimitives primitives client.pairingKey).authenticate
        operation) fun _ => World.Engaged := by
    apply Coroutine.Meets.bind (connects .isConnected rfl rfl)
    · intro (connected : Bool)
      cases connected with
      | false => exact fun world holds => ends world holds
      | true =>
          apply Coroutine.Meets.bind creates
          · intro _
            refine Coroutine.Meets.only ?_ fun _ created => created.2
            apply Coroutine.Meets.bind starts
            · intro _
              have runs := (TiltBleSession.authenticate_inSession primitives
                client.pairingKey).bind fun _ => inSession
              exact runs.weaken fun _ _ holds => holds.engaged fun _ => rfl
            · exact fun _ _ holds => holds.engaged nofun
          · intro error world impossible
            cases impossible.1
    · exact fun _ world holds => ends world holds
  apply Coroutine.Meets.bind (connects .isConnected rfl rfl)
  · intro (connected : Bool)
    cases connected with
    | false =>
        apply Coroutine.Meets.bind (connects .connect rfl rfl)
        · exact fun _ => opens
        · exact fun _ world holds => ends world holds
    | true => exact opens
  · exact fun _ world holds => ends world holds

theorem stop_releases (running : Bool) :
    (callPrimitives primitives client.pairingKey).stop.Meets eventLoop sessionOutline
      (World.Holds true none running) fun _ => World.Holds true none false := by
  have awaits : KeepsHolding true none false (tryCatch
      (TiltBleSession.await .awaitWorker) (fun error =>
        if error = .cancelledError then pure () else throw error)) := by
    apply KeepsHolding.tryCatch
    · exact KeepsHolding.await rfl nofun fun _ => rfl
    · exact fun _ => KeepsHolding.ite (KeepsHolding.done _) (KeepsHolding.done _)
  have stops : KeepsHolding true none false (tryCatch
      (TiltBleSession.await .stopNotify) (fun error =>
        if error.isOrdinary then pure () else throw error)) := by
    apply KeepsHolding.tryCatch
    · exact KeepsHolding.await rfl nofun fun _ => rfl
    · exact fun _ => KeepsHolding.ite (KeepsHolding.done _) (KeepsHolding.done _)
  intro world holds
  have taken : (World.modifySession (fun session => { session with worker := none }) world).Holds
      true none false :=
    ⟨holds.opened, holds.waiters, rfl, holds.queues.1, holds.queues.2⟩
  refine ⟨trivial, ?_⟩
  cases world.session.worker.isSome with
  | true => exact (awaits.bind fun _ => stops) _ taken
  | false => exact stops _ taken

theorem closeBleClient_releases (opened running : Bool)
    (workerHasSession : running = true → opened = true) :
    ((callPrimitives primitives client.pairingKey).closeBleClient opened).Meets eventLoop
      sessionOutline (World.Holds opened none running) fun _ => World.Released := by
  have isConnected : KeepsHolding opened none false (TiltBleSession.await .isConnected) :=
    KeepsHolding.await rfl nofun nofun
  have disconnects : KeepsHolding opened none false (tryCatch
      (TiltBleSession.await .disconnect) (fun error =>
        if error.isOrdinary then do
          let connected : Bool ← TiltBleSession.await .isConnected
          if connected then throw (.tiltBleCleanupError "Tilt BLE client disconnect failed.")
        else throw error)) := by
    apply KeepsHolding.tryCatch
    · exact KeepsHolding.await rfl nofun fun _ => rfl
    · intro error
      apply KeepsHolding.ite
      · apply isConnected.bind
        intro (connected : Bool)
        exact KeepsHolding.ite (KeepsHolding.done _) (KeepsHolding.done _)
      · exact KeepsHolding.done _
  have stops : Coroutine.Meets eventLoop sessionOutline (World.Holds opened none running)
      (if opened then (callPrimitives primitives client.pairingKey).stop else pure ())
      fun _ => World.Holds opened none false := by
    cases opened with
    | true => exact stop_releases primitives client running
    | false =>
        cases running with
        | true => cases workerHasSession rfl
        | false => exact fun _ holds => holds
  apply Coroutine.Meets.bind (Coroutine.Meets.tryFinally stops disconnects)
  · intro _
    refine Coroutine.Meets.weaken (isConnected.bind ?_) fun _ _ holds => holds.released
    intro (connected : Bool)
    exact KeepsHolding.ite (KeepsHolding.done _) (KeepsHolding.done _)
  · exact fun _ _ holds => holds.released

theorem runSession_between {operation : Async Result}
    (inSession : TiltBleSession.InSession operation) :
    BetweenSessions (client.runSession primitives operation) := by
  have between : ∀ operation : Operation, operation.awaitedSequence? = none →
      operation.isExchange = false → BetweenSessions (TiltBleSession.await operation) := by
    intro operation notAwaited notExchange
    apply KeepsHolding.betweenSessions
    intro opened
    apply KeepsHolding.await notAwaited
    · intro isExchange
      cases notExchange.symm.trans isExchange
    · exact fun _ => rfl
  have forgets : Coroutine.Meets eventLoop sessionOutline World.Released
      (callPrimitives primitives client.pairingKey).forgetSession fun outcome world =>
        outcome = .ok () ∧ world.Holds false none false := by
    intro world released
    exact ⟨trivial, rfl, rfl, released.holds.waiters, released.holds.worker, released.queues⟩
  have closes : Coroutine.Meets eventLoop sessionOutline World.Engaged
      (do
        let session ← (callPrimitives primitives client.pairingKey).hasSession
        (callPrimitives primitives client.pairingKey).awaitCancellationSafeCleanup
          ((callPrimitives primitives client.pairingKey).closeBleClient session))
      fun _ => World.Released := by
    rintro world ⟨opened, running, workerHasSession, holds⟩
    have closing := closeBleClient_releases primitives client opened running
      workerHasSession world holds
    rw [← holds.opened] at closing
    exact closing
  apply Coroutine.Meets.bind (between .acquireBleLock rfl rfl)
  · intro _
    apply Coroutine.Meets.tryFinally
    · apply Coroutine.Meets.bind (between .clientFactory rfl rfl)
      · intro _
        apply Coroutine.Meets.bind forgets
        · intro _
          refine Coroutine.Meets.only ?_ fun _ forgotten => forgotten.2
          exact Coroutine.Meets.tryFinally (sessionBody_engaged primitives client inSession) closes
        · intro error world impossible
          cases impossible.1
      · exact fun _ _ released => released
    · exact BetweenSessions.done _
  · exact fun _ _ released => released

theorem readStatus_between : BetweenSessions (client.readStatus primitives) := by
  have once := runSession_between primitives client
    (TiltBleSession.readStatus_inSession primitives client.pairingKey)
  apply Coroutine.Meets.tryCatch once
  · exact fun _ _ released => released
  · intro error
    cases TiltShadeClient.isTransient error with
    | true =>
        apply BetweenSessions.bind
        · apply KeepsHolding.betweenSessions
          exact fun _ => KeepsHolding.await rfl nofun nofun
        · exact fun _ => once
    | false => exact BetweenSessions.done _

theorem perform_between (call : ClientCall) :
    BetweenSessions (client.perform primitives call) := by
  cases call with
  | readStatus => exact (readStatus_between primitives client).bind fun _ => BetweenSessions.done _
  | setPositionAndReadStatus positionPercent settleSeconds =>
      apply BetweenSessions.bind
      · unfold TiltShadeClient.setPositionAndReadStatus
        cases client.requestedPosition positionPercent with
        | error error => exact BetweenSessions.done _
        | ok percent =>
            exact runSession_between primitives client
              (positionOperation_inSession primitives client.pairingKey percent settleSeconds)
      · exact fun _ => BetweenSessions.done _

theorem performAll_between (calls : List ClientCall) :
    BetweenSessions (client.performAll primitives calls) := by
  induction calls with
  | nil => exact BetweenSessions.done _
  | cons call calls induction =>
      apply BetweenSessions.bind
      · apply KeepsHolding.betweenSessions
        exact fun _ => KeepsHolding.record _
      · intro _
        apply BetweenSessions.bind
        · apply Coroutine.Meets.tryCatch (perform_between primitives client call)
          · exact fun _ _ released => released
          · exact fun _ => BetweenSessions.done _
        · exact fun _ => induction

/-- The resources of a client. In every state of every run of its calls, whatever the shade
sends and whatever fails: the notification queue has at most 128 items and the response queue
at most 4; a future is registered exactly for the chunk that the caller is writing or whose
acknowledgement it awaits; the worker runs during every exchange with the shade, and it does
not run before the notifications are started or while the session is closed. When the calls
have ended, no future is registered and no worker runs. -/
theorem performAll_resources (calls : List ClientCall) (events : List (Event Background Choice))
    (task : Task World Operation Operation.Reply PythonException Unit)
    (reached : eventLoop.run (eventLoop.settle (client.performAll primitives calls) .initial)
      events = some task) :
    (∃ operation, task.code.suspendedOn? = some operation ∧ task.state.Stands operation) ∨
      ((∃ outcome, task.code = .done outcome) ∧ task.state.Released) := by
  have released : World.initial.Released := World.Holds.initial.released
  have stands := (performAll_between primitives client calls).settle released
  have last := stands.run
    (fun action before after moved => World.background_undisturbed moved) reached
  rcases last.position with ⟨outcome, isDone, ended⟩ | suspended
  · exact .inr ⟨⟨outcome, isDone⟩, ended⟩
  · exact .inl suspended

/-- A status read that awaits the acknowledgement of its first chunk. -/
theorem performAll_resources_awaiting : ∃ events task,
    eventLoop.run (eventLoop.settle (sampleClient.performAll .constant [.readStatus]) .initial)
      events = some task ∧
    task.code.suspendedOn? = some (.waitAck 1) ∧ task.state.Stands (.waitAck 1) := by
  have observed : (eventLoop.run
      (eventLoop.settle (sampleClient.performAll .constant [.readStatus]) .initial)
      (openSession ++ [.resume .completed, .resume .completed])).map
        (fun task => task.code.suspendedOn?) = some (some (.waitAck 1)) := by
    decide +kernel
  rcases Option.map_eq_some_iff.mp observed with ⟨task, reached, seen⟩
  refine ⟨_, task, reached, seen, ?_⟩
  rcases performAll_resources .constant sampleClient [.readStatus] _ task reached with
    ⟨operation, suspended, stands⟩ | ⟨⟨outcome, isDone⟩, _⟩
  · rw [seen] at suspended
    cases suspended
    exact stands
  · rw [isDone] at seen
    cases seen

end Client

end SmartblindsBle
