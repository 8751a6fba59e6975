import SmartblindsBle.Tilt.Failures
import SmartblindsBle.Tilt.Transcript

/-! # Failures stay inside the declared types

The notification worker hands every exception that it catches to the response
queue and to the pending waiters. All of them are declared, except that a message
for which the response queue has no room raises `QueueFull`.
-/

namespace SmartblindsBle

open Foundation

/-! ## What the worker injects -/

namespace TiltBleSession

section Injections

variable {allowed : PythonException → Prop} {session : TiltBleSession}

theorem fail_injected {error : OrdinaryException} (isAllowed : allowed error.val)
    (injected : Injected allowed session) : Injected allowed (session.fail error) := by
  constructor
  · intro sequence failure failed
    rcases Option.map_eq_some_iff.mp failed with ⟨waiter, found, resolved⟩
    cases waiter with
    | pending =>
        cases resolved
        exact isAllowed
    | acknowledged => cases resolved
    | failed earlier =>
        cases resolved
        exact injected.1 sequence failure found
  · intro failure queued
    simp only [fail] at queued
    split at queued
    · rcases List.mem_append.mp queued with member | isNew
      · exact injected.2 failure member
      · cases List.mem_singleton.mp isNew
        exact isAllowed
    · exact injected.2 failure queued

theorem workerRaised_injected (session : TiltBleSession) {error : PythonException}
    (isAllowed : allowed error)
    (injected : Injected allowed session) : Injected allowed (session.workerRaised error) := by
  unfold workerRaised
  split
  · exact fail_injected isAllowed injected
  · exact injected

theorem notificationReceived_injected (data : Bytes)
    (isAllowed : allowed (.tiltBleError "Tilt notification queue overflowed."))
    (injected : Injected allowed session) :
    Injected allowed (session.notificationReceived data) := by
  unfold notificationReceived
  split
  · exact injected
  · exact fail_injected isAllowed injected

theorem acknowledgeWaiter_injected (sequence : Nat) (injected : Injected allowed session) :
    Injected allowed (session.acknowledgeWaiter sequence) := by
  constructor
  · intro key error failed
    simp only [acknowledgeWaiter] at failed
    split at failed
    · rcases Option.map_eq_some_iff.mp failed with ⟨waiter, found, resolved⟩
      cases waiter with
      | failed earlier =>
          cases resolved
          exact injected.1 key error found
      | _ => cases resolved
    · exact injected.1 key error failed
  · exact injected.2

/-- What the worker catches while it handles a notification comes from the codec. -/
theorem handleNotification_injected (session : TiltBleSession) (data : Bytes)
    (malformed : ∀ error, error.isMalformed = true → allowed error)
    (injected : Injected allowed session) :
    Injected allowed (session.handleNotification data).1 := by
  unfold handleNotification
  split
  · next error refused =>
      exact workerRaised_injected session
        (malformed error (parseBleChunk_raises data error refused))
        injected
  · split
    · split
      · next error refused =>
          exact workerRaised_injected session
            (malformed error (parseBleAck_raises data error refused))
            injected
      · exact acknowledgeWaiter_injected _ injected
    · have addRaises := add_raises session.assembler data
      split
      · next assembler error added =>
          rw [added] at addRaises
          exact workerRaised_injected { session with assembler := assembler }
            (malformed error (addRaises error rfl)) injected
      · next assembler acknowledged message added =>
          split
          · next error refused =>
              exact workerRaised_injected { session with assembler := assembler }
                (malformed error (makeBleAck_raises acknowledged error refused)) injected
          · exact injected

/-- There is room for a message, or no waiter would learn that there is none. -/
def HasRoom (session : TiltBleSession) : Prop :=
  session.responseQueue.length < responseQueueSize ∨
    ∀ sequence, session.ackWaiters sequence ≠ some .pending

theorem fail_unheard {error : OrdinaryException}
    (isFull : ¬session.responseQueue.length < responseQueueSize)
    (noPending : ∀ sequence, session.ackWaiters sequence ≠ some .pending) :
    session.fail error = session := by
  have sameWaiters : (fun key =>
      (session.ackWaiters key).map (AckWaiter.resolve (.failed error))) = session.ackWaiters := by
    funext key
    cases found : session.ackWaiters key with
    | none => rfl
    | some waiter =>
        cases waiter with
        | pending => exact absurd found (noPending key)
        | acknowledged => rfl
        | failed earlier => rfl
  simp only [fail, if_neg isFull, sameWaiters]

theorem acknowledgementWritten_injected (outcome : Raises Unit) (message : Option Bytes)
    (fails : ∀ error, outcome = .error error → allowed error)
    (hasRoom : outcome = .ok () → message ≠ none → allowed .queueFull ∨ session.HasRoom)
    (injected : Injected allowed session) :
    Injected allowed (session.acknowledgementWritten outcome message) := by
  cases outcome with
  | error error =>
      exact workerRaised_injected { session with worker := some .waiting }
        (fails error rfl) injected
  | ok _ =>
      cases message with
      | none => exact injected
      | some message =>
          simp only [acknowledgementWritten]
          split
          · constructor
            · exact injected.1
            · intro error queued
              rcases List.mem_append.mp queued with member | isNew
              · exact injected.2 error member
              · cases List.mem_singleton.mp isNew
          · next isFull =>
              rcases hasRoom rfl nofun with isAllowed | isRoom | noPending
              · exact workerRaised_injected { session with worker := some .waiting }
                  isAllowed injected
              · exact absurd isRoom isFull
              · have unheard :
                    ({ session with worker := some .waiting } : TiltBleSession).workerRaised
                      .queueFull = { session with worker := some .waiting } :=
                  fail_unheard isFull noPending
                rw [unheard]
                exact injected

end Injections

end TiltBleSession

/-- What the callback and the worker inject is allowed if the codec's errors are, and
those of the acknowledgements, and `QueueFull` where the queue has no room. -/
theorem World.background_injected {allowed : PythonException → Prop} {action : Background}
    {before after : World}
    (declared : ∀ error, error.isDeclared = true → error.isAuthenticationError = false →
      allowed error)
    (fails : ∀ error, action = .workWritten (.error error) → allowed error)
    (hasRoom : ∀ message, action = .workWritten (.ok ()) →
      before.session.worker = some (.acknowledging (some message)) →
        allowed .queueFull ∨ before.session.HasRoom)
    (stepped : World.background action before = some after)
    (injected : Injected allowed before.session) : Injected allowed after.session := by
  cases action with
  | notify data =>
      simp only [World.background, Option.ite_none_right_eq_some] at stepped
      cases stepped.2
      exact TiltBleSession.notificationReceived_injected data (declared _ rfl rfl) injected
  | work =>
      simp only [World.background] at stepped
      split at stepped
      · next data rest worker queue =>
          have malformed (error : PythonException) (isMalformed : error.isMalformed = true) :
              allowed error :=
            declared error (PythonException.isDeclared_of_isMalformed isMalformed).1
              (PythonException.isDeclared_of_isMalformed isMalformed).2
          have handled := TiltBleSession.handleNotification_injected
            { before.session with notificationQueue := rest } data malformed injected
          split at stepped
          all_goals
            cases stepped
            exact handled
      · cases stepped
  | workWritten outcome =>
      simp only [World.background] at stepped
      split at stepped
      · cases stepped
      · next outcome _ _ message writing _ =>
          cases stepped
          apply TiltBleSession.acknowledgementWritten_injected outcome message
          · intro error failed
            apply fails
            rw [failed]
          · intro written hasMessage
            rcases Option.ne_none_iff_exists'.mp hasMessage with ⟨frame, isFrame⟩
            rw [isFrame] at writing
            apply hasRoom frame
            · rw [written]
            · exact writing
          · exact injected
      · cases stepped

/-! ## Conditions on a run -/

/-- The BLE client raises nothing but `BleakError`; the default client factory may
also report that the BLE package is missing. -/
def bleakClient : Admission World Operation Background Choice where
  background action _ := ∀ error, action = .workWritten (.error error) → error.isBleakError = true
  answer operation choice _ := ∀ error, choice = .failed error →
    error.isBleakError = true ∨ operation = .clientFactory ∧ error.isTiltBleError = true

/-- No message is completed for a full response queue while a chunk waits for its
acknowledgement. -/
def roomForMessages : Admission World Operation Background Choice where
  background action world := ∀ message, action = .workWritten (.ok ()) →
    world.session.worker = some (.acknowledging (some message)) → world.session.HasRoom
  answer _ _ _ := True

/-- An exception that the client, the codec or the worker raises in such a run is
declared. -/
theorem bleakClient_contains : Contains (bleakClient.both roomForMessages)
    (·.isDeclared = true) (fun _ _ => True) where
  injects := by
    intro action before after admitted stepped injected
    apply World.background_injected
    · exact fun _ isDeclared _ => isDeclared
    · intro error failed
      simp [PythonException.isDeclared, admitted.1 error failed]
    · exact fun message written writing => .inr (admitted.2 message written writing)
    · exact stepped
    · exact injected
  raises := by
    intro operation error world admitted
    rcases admitted.1 error rfl with isBleak | ⟨_, isTiltBle⟩
    · simp [PythonException.isDeclared, isBleak]
    · simp [PythonException.isDeclared, isTiltBle]
  takes := fun _ _ _ _ _ => trivial
  declared := fun _ isDeclared _ => isDeclared

theorem isDeclared_of_malformedOr {reason : Prop} {Value : Type} {outcome : Raises Value}
    (raises : RaisesOnly (MalformedOr reason) outcome) :
    RaisesOnly (·.isDeclared = true) outcome := by
  intro error failed
  rcases raises error failed with malformed | ⟨isAuthentication, _⟩
  · exact (PythonException.isDeclared_of_isMalformed malformed).1
  · cases error <;> first | rfl | cases isAuthentication

theorem reads_isDeclared (primitives : CryptoPrimitives) (key : PairingKey) :
    Reads primitives key (·.isDeclared = true) (fun _ _ => True) where
  versions frame _ _ := isDeclared_of_malformedOr (selectedProtocol_raises frame)
  selection frame selected _ _ := isDeclared_of_malformedOr (checkSelection_raises frame selected)
  proof frame _ _ := isDeclared_of_malformedOr (verifiedNonce_raises primitives key frame)
  response nonce frame messageId counter _ := isDeclared_of_malformedOr
    (decodeApplicationResponse_raises primitives frame key.bytes nonce .getStatus messageId
      counter)

/-! ## The call -/

namespace TiltShadeClient

variable (primitives : CryptoPrimitives) (client : TiltShadeClient)

/-- The first session of `read_status`. -/
abbrev statusSession : Async ShadeStatus :=
  client.runSession primitives (TiltBleSession.readStatus primitives client.pairingKey)

/-- The delay and the second session of `read_status`. -/
abbrev retriedSession : Async ShadeStatus := do
  TiltBleSession.await (.sleep statusReadRetryDelaySeconds)
  client.statusSession primitives

end TiltShadeClient

theorem readStatus_retries {primitives : CryptoPrimitives} {client : TiltShadeClient}
    {world last : World} {events : List SessionEvent} {choice : Choice} {error : PythonException}
    (failed : eventLoop.run (eventLoop.settle (client.statusSession primitives) world)
      (events ++ [.resume choice]) = some ⟨.done (.error error), last⟩)
    (transient : TiltShadeClient.isTransient error = true) :
    eventLoop.run (eventLoop.settle (client.readStatus primitives) world)
        (events ++ [.resume choice]) =
      some (eventLoop.settle (client.retriedSession primitives) last) := by
  rw [TiltShadeClient.readStatus, Environment.run_tryCatch failed, if_pos transient]

/-- While the BLE client raises nothing but `BleakError` and every message finds room,
each exception that leaves `read_status` is declared, and its retry covers every
failure of the first session but a wrong key and a failed clean-up. -/
theorem readStatus_raisesDeclared (primitives : CryptoPrimitives) (client : TiltShadeClient)
    (world last : World) (events : List SessionEvent) (error : PythonException) :
    (eventLoop.EveryStep bleakClient
        (eventLoop.settle (client.readStatus primitives) world) events →
      eventLoop.EveryStep roomForMessages
        (eventLoop.settle (client.readStatus primitives) world) events →
      eventLoop.run (eventLoop.settle (client.readStatus primitives) world) events =
        some ⟨.done (.error error), last⟩ →
      error.isDeclared = true) ∧
    ∀ choice, eventLoop.EveryStep bleakClient
        (eventLoop.settle (client.statusSession primitives) world) (events ++ [.resume choice]) →
      eventLoop.EveryStep roomForMessages
        (eventLoop.settle (client.statusSession primitives) world) (events ++ [.resume choice]) →
      eventLoop.run (eventLoop.settle (client.statusSession primitives) world)
        (events ++ [.resume choice]) = some ⟨.done (.error error), last⟩ →
      error.isAuthenticationError = false → error.isTiltBleCleanupError = false →
      eventLoop.run (eventLoop.settle (client.readStatus primitives) world)
          (events ++ [.resume choice]) =
        some (eventLoop.settle (client.retriedSession primitives) last) := by
  have reads := reads_isDeclared primitives client.pairingKey
  constructor
  · intro bleak room finished
    have tolerates := @readStatus_tolerates _ _ _ bleakClient_contains primitives client reads
    exact tolerates.reached (bleak.both room) finished
  · intro choice bleak room failed notAuthentication notCleanup
    have tolerates := @runSession_tolerates _ _ _ bleakClient_contains primitives client reads
    have declared := tolerates.reached (bleak.both room) failed
    exact readStatus_retries failed
      (PythonException.isTransient_of_isDeclared declared notAuthentication notCleanup)

/-! ## A message before the first request -/

private theorem faultless_bleakClient {Result : Type} {code : Async Result} {world : World}
    {events : List SessionEvent}
    (every : eventLoop.EveryStep faultless (eventLoop.settle code world) events) :
    eventLoop.EveryStep bleakClient (eventLoop.settle code world) events := by
  apply every.mono
  · intro action world isQuiet error same
    rw [same] at isQuiet
    exact isQuiet.elim
  · intro operation choice world isQuiet error same
    rw [same] at isQuiet
    exact isQuiet.elim

/-- The response queue has room. -/
private def uncrowded : Admission World Operation Background Choice where
  background _ world := world.session.responseQueue.length < responseQueueSize
  answer _ _ _ := True

private instance (action : Background) (world : World) :
    Decidable (uncrowded.background action world) :=
  inferInstanceAs (Decidable (_ < _))

private instance (operation : Operation) (choice : Choice) (world : World) :
    Decidable (uncrowded.answer operation choice world) :=
  .isTrue trivial

private theorem uncrowded_roomForMessages {Result : Type} {code : Async Result} {world : World}
    {events : List SessionEvent}
    (every : eventLoop.EveryStep uncrowded (eventLoop.settle code world) events) :
    eventLoop.EveryStep roomForMessages (eventLoop.settle code world) events := by
  apply every.mono
  · exact fun _ _ isRoom _ _ _ => .inl isRoom
  · exact fun _ _ _ _ => trivial

/-- A chunk that is a whole message, received and acknowledged. -/
private def unsolicited (sequence : Nat) : List SessionEvent :=
  [.background (.notify (dataChunk sequence true [0])), .background .work,
    .background (.workWritten (.ok ()))]

/-- A message arrives before the session has asked for one. -/
private def staleSession : List SessionEvent :=
  openSession ++ unsolicited 1 ++ [.resume .completed] ++ closeSession

private def staleResponse : PythonException :=
  .tiltBleError "Unexpected stale Tilt response before request."

/-- Both sessions find a message that they have not asked for. -/
theorem readStatus_raisesDeclared_stale : ∃ middle last,
    eventLoop.run (eventLoop.settle (sampleClient.readStatus .constant) .initial)
        (staleSession ++ [.resume (.connected false)]) =
      some (eventLoop.settle (sampleClient.retriedSession .constant) middle) ∧
    eventLoop.run (eventLoop.settle (sampleClient.readStatus .constant) .initial)
        (staleSession ++ [.resume (.connected false), .resume .completed] ++ staleSession ++
          [.resume (.connected false)]) = some ⟨.done (.error staleResponse), last⟩ ∧
    staleResponse.isDeclared = true := by
  have first : (observe (sampleClient.statusSession .constant) .initial
      (staleSession ++ [.resume (.connected false)])).map (·.2) =
        some (some (.error staleResponse)) := by
    decide +kernel
  have whole : (observe (sampleClient.readStatus .constant) .initial
      (staleSession ++ [.resume (.connected false), .resume .completed] ++ staleSession ++
        [.resume (.connected false)])).map (·.2) = some (some (.error staleResponse)) := by
    decide +kernel
  rcases Option.map_eq_some_iff.mp first with ⟨⟨firstHistory, outcome⟩, firstSeen, rfl⟩
  rcases Option.map_eq_some_iff.mp whole with ⟨⟨history, outcome⟩, seen, rfl⟩
  rcases observe_finished firstSeen with ⟨middle, failed, _⟩
  rcases observe_finished seen with ⟨last, finished, _⟩
  have firstSteps : eventLoop.EveryStep faultless
        (eventLoop.settle (sampleClient.statusSession .constant) .initial)
        (staleSession ++ [.resume (.connected false)]) ∧
      eventLoop.EveryStep uncrowded
        (eventLoop.settle (sampleClient.statusSession .constant) .initial)
        (staleSession ++ [.resume (.connected false)]) := by
    decide +kernel
  have steps : eventLoop.EveryStep faultless
        (eventLoop.settle (sampleClient.readStatus .constant) .initial)
        (staleSession ++ [.resume (.connected false), .resume .completed] ++ staleSession ++
          [.resume (.connected false)]) ∧
      eventLoop.EveryStep uncrowded
        (eventLoop.settle (sampleClient.readStatus .constant) .initial)
        (staleSession ++ [.resume (.connected false), .resume .completed] ++ staleSession ++
          [.resume (.connected false)]) := by
    decide +kernel
  refine ⟨middle, last, ?_, finished, ?_⟩
  · exact (readStatus_raisesDeclared _ _ _ middle _ _).2 _ (faultless_bleakClient firstSteps.1)
      (uncrowded_roomForMessages firstSteps.2) failed rfl rfl
  · exact (readStatus_raisesDeclared _ _ _ last _ _).1 (faultless_bleakClient steps.1)
      (uncrowded_roomForMessages steps.2) finished

/-! ## Five messages before the first acknowledgement -/

private def floodedSession : List SessionEvent :=
  openSession ++ [.resume .completed] ++ [1, 2, 3, 4, 5].flatMap unsolicited ++
    [.resume .completed, .resume .completed] ++ closeSession ++ [.resume (.connected false)]

/-- Five messages arrive while the first chunk is being written: the fifth finds the
response queue full, and the waiter of the chunk is given the exception `QueueFull`. -/
theorem readStatus_raises_queueFull : ∃ last,
    eventLoop.EveryStep bleakClient
        (eventLoop.settle (sampleClient.readStatus .constant) .initial) floodedSession ∧
      eventLoop.run (eventLoop.settle (sampleClient.readStatus .constant) .initial)
        floodedSession = some ⟨.done (.error .queueFull), last⟩ ∧
      PythonException.queueFull.isDeclared = false := by
  have quiet : eventLoop.EveryStep faultless
      (eventLoop.settle (sampleClient.readStatus .constant) .initial) floodedSession := by
    decide +kernel
  have raised : (observe (sampleClient.readStatus .constant) .initial floodedSession).map (·.2) =
      some (some (.error .queueFull)) := by
    decide +kernel
  rcases Option.map_eq_some_iff.mp raised with ⟨⟨history, outcome⟩, seen, rfl⟩
  rcases observe_finished seen with ⟨last, finished, _⟩
  exact ⟨last, faultless_bleakClient quiet, finished, rfl⟩

end SmartblindsBle
