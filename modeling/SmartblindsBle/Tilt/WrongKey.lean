import SmartblindsBle.Tilt.DeclaredFailures

/-! # When a status read reports a wrong key

Two checks raise `AuthenticationError`: that of the key proof, and that of the
CRC16 checksum of every message. A shade that holds the pairing key passes the
first; the second is failed by a message that was corrupted on the link.
-/

namespace SmartblindsBle

open Foundation

/-- The checksum of a message is verified in this phase, and it does not match. -/
def Phase.FailsChecksum (primitives : CryptoPrimitives) (key : PairingKey) (phase : Phase)
    (frame : Bytes) : Prop :=
  match phase.nonce with
  | none => FrameFailsChecksum frame
  | some nonce => TiltBleSession.counterAfter (headerCounter frame) = phase.counter ∧
      ResponseFailsChecksum primitives key.bytes nonce frame

instance (primitives : CryptoPrimitives) (key : PairingKey) (phase : Phase) (frame : Bytes) :
    Decidable (phase.FailsChecksum primitives key frame) := by
  unfold Phase.FailsChecksum
  split <;> infer_instance

/-- The shade holds the pairing key: a nonce response that is taken carries its proof.
The BLE client knows no `AuthenticationError`. -/
def shadeOfKey (primitives : CryptoPrimitives) (key : PairingKey) :
    Admission World Operation Background Choice where
  background action _ := ∀ error, action = .workWritten (.error error) →
    error.isAuthenticationError = false
  answer operation choice world := (∀ error, choice = .failed error →
      error.isAuthenticationError = false) ∧
    ∀ frame rest, operation = .getResponse → choice = .completed →
      world.session.responseQueue = .message frame :: rest → world.session.nonce = none →
        CarriesProof primitives key frame

/-- No message that is taken fails its checksum. -/
def intactMessages (primitives : CryptoPrimitives) (key : PairingKey) :
    Admission World Operation Background Choice where
  background _ _ := True
  answer operation choice world := ∀ frame rest, operation = .getResponse → choice = .completed →
    world.session.responseQueue = .message frame :: rest →
      ¬world.session.phase.FailsChecksum primitives key frame

section WrongKey

variable {primitives : CryptoPrimitives} {key : PairingKey}

/-- A message that passes both checks. -/
def Genuine (primitives : CryptoPrimitives) (key : PairingKey) (phase : Phase) (frame : Bytes) :
    Prop :=
  (phase.nonce = none → CarriesProof primitives key frame) ∧
    ¬phase.FailsChecksum primitives key frame

theorem shadeOfKey_contains :
    Contains ((shadeOfKey primitives key).both (intactMessages primitives key))
      (·.isAuthenticationError = false) (Genuine primitives key) where
  injects := by
    intro action before after admitted stepped injected
    apply World.background_injected
    · exact fun _ _ notAuthentication => notAuthentication
    · exact admitted.1
    · exact fun _ _ _ => .inl rfl
    · exact stepped
    · exact injected
  raises := fun _ error _ admitted => admitted.1.1 error rfl
  takes := by
    intro frame rest world queue admitted
    constructor
    · exact admitted.1.2 frame rest rfl rfl queue
    · exact admitted.2 frame rest rfl rfl queue
  declared := fun _ _ notAuthentication => notAuthentication

theorem notAuthentication_of_malformedOr {reason : Prop} {Value : Type} {outcome : Raises Value}
    (raises : RaisesOnly (MalformedOr reason) outcome) (noReason : ¬reason) :
    RaisesOnly (·.isAuthenticationError = false) outcome := by
  intro error failed
  rcases raises error failed with malformed | ⟨_, isReason⟩
  · exact (PythonException.isDeclared_of_isMalformed malformed).2
  · exact absurd isReason noReason

theorem reads_genuine :
    Reads primitives key (·.isAuthenticationError = false) (Genuine primitives key) where
  versions frame _ genuine :=
    notAuthentication_of_malformedOr (selectedProtocol_raises frame) genuine.2
  selection frame selected _ genuine :=
    notAuthentication_of_malformedOr (checkSelection_raises frame selected) genuine.2
  proof frame _ genuine := by
    apply notAuthentication_of_malformedOr (verifiedNonce_raises primitives key frame)
    intro wrong
    rcases wrong with fails | noProof
    · exact genuine.2 fails
    · exact noProof (genuine.1 rfl)
  response nonce frame messageId counter genuine := by
    apply notAuthentication_of_malformedOr
      (decodeApplicationResponse_raises primitives frame key.bytes nonce .getStatus messageId
        counter)
    intro fails
    apply genuine.2
    constructor
    · rw [fails.1]
    · exact fails.2

end WrongKey

/-- With a shade that holds the pairing key, a status read never reports a wrong key
as long as no message fails its checksum; a declared failure of the first session
other than of its clean-up is followed by the second session. -/
theorem readStatus_neverWrongKey (primitives : CryptoPrimitives) (client : TiltShadeClient)
    (world last : World) (events : List SessionEvent) (error : PythonException) :
    (eventLoop.EveryStep (shadeOfKey primitives client.pairingKey)
        (eventLoop.settle (client.readStatus primitives) world) events →
      eventLoop.EveryStep (intactMessages primitives client.pairingKey)
        (eventLoop.settle (client.readStatus primitives) world) events →
      eventLoop.run (eventLoop.settle (client.readStatus primitives) world) events =
        some ⟨.done (.error error), last⟩ →
      error.isAuthenticationError = false) ∧
    ∀ choice, eventLoop.EveryStep (shadeOfKey primitives client.pairingKey)
        (eventLoop.settle (client.statusSession primitives) world) (events ++ [.resume choice]) →
      eventLoop.EveryStep (intactMessages primitives client.pairingKey)
        (eventLoop.settle (client.statusSession primitives) world) (events ++ [.resume choice]) →
      eventLoop.run (eventLoop.settle (client.statusSession primitives) world)
        (events ++ [.resume choice]) = some ⟨.done (.error error), last⟩ →
      error.isDeclared = true → error.isTiltBleCleanupError = false →
      ∀ later, eventLoop.run (eventLoop.settle (client.readStatus primitives) world)
          (events ++ [.resume choice] ++ later) =
        eventLoop.run (eventLoop.settle (client.retriedSession primitives) last) later := by
  constructor
  · intro shade intact finished
    have tolerates :=
      @readStatus_tolerates _ _ _ shadeOfKey_contains primitives client reads_genuine
    exact tolerates.reached (shade.both intact) finished
  · intro choice shade intact failed declared notCleanup later
    have tolerates :=
      @runSession_tolerates _ _ _ shadeOfKey_contains primitives client reads_genuine
    have notAuthentication := tolerates.reached (shade.both intact) failed
    rw [Environment.run_append, readStatus_retries failed
      (PythonException.isTransient_of_isDeclared declared notAuthentication notCleanup)]
    rfl

/-! ## A lost message and a corrupted one -/

private instance (primitives : CryptoPrimitives) (key : PairingKey) (frame : Bytes) :
    Decidable (CarriesProof primitives key frame) :=
  match parsed : parseCryptoResponse frame with
  | .error error => .isTrue fun _ _ same => nomatch parsed.symm.trans same
  | .ok response =>
      match isNonce : parseNonceResponse response with
      | .error error => .isTrue fun other _ same accepted => by
          cases parsed.symm.trans same
          exact nomatch isNonce.symm.trans accepted
      | .ok nonceResponse =>
          decidable_of_iff
            (nonceResponse.keyProof = primitives.hmacSha256 key.bytes pairingKeyProofMessage)
            ⟨fun proves other found same accepted => by
                cases parsed.symm.trans same
                cases isNonce.symm.trans accepted
                exact proves,
              fun carries => carries response nonceResponse parsed isNonce⟩

/-- A message that is taken satisfies `taken`. -/
private def takenMessages (taken : Phase → Bytes → Prop) :
    Admission World Operation Background Choice where
  background _ _ := True
  answer operation _ world :=
    match operation, world.session.responseQueue with
    | .getResponse, .message frame :: _ => taken world.session.phase frame
    | _, _ => True

private instance (taken : Phase → Bytes → Prop) (action : Background) (world : World) :
    Decidable ((takenMessages taken).background action world) :=
  .isTrue trivial

private instance (taken : Phase → Bytes → Prop) [∀ phase frame, Decidable (taken phase frame)]
    (operation : Operation) (choice : Choice) (world : World) :
    Decidable ((takenMessages taken).answer operation choice world) := by
  unfold takenMessages
  dsimp only
  split <;> infer_instance

section Taken

variable {Result : Type} {primitives : CryptoPrimitives} {key : PairingKey}
variable {code : Async Result} {world : World} {events : List SessionEvent}
variable {taken : Phase → Bytes → Prop}

private theorem takenMessages_shadeOfKey
    (carries : ∀ phase frame, taken phase frame → phase.nonce = none →
      CarriesProof primitives key frame)
    (every : eventLoop.EveryStep (faultless.both (takenMessages taken))
      (eventLoop.settle code world) events) :
    eventLoop.EveryStep (shadeOfKey primitives key) (eventLoop.settle code world) events := by
  apply every.mono
  · intro action world admitted error same
    rw [same] at admitted
    exact False.elim admitted.1
  · intro operation choice world admitted
    constructor
    · intro error same
      rw [same] at admitted
      exact False.elim admitted.1
    · intro frame rest isResponse _ queue noNonce
      have isTaken := admitted.2
      rw [isResponse] at isTaken
      simp only [takenMessages, queue] at isTaken
      exact carries world.session.phase frame isTaken noNonce

private theorem takenMessages_intactMessages
    (intact : ∀ phase frame, taken phase frame → ¬phase.FailsChecksum primitives key frame)
    (every : eventLoop.EveryStep (faultless.both (takenMessages taken))
      (eventLoop.settle code world) events) :
    eventLoop.EveryStep (intactMessages primitives key) (eventLoop.settle code world) events := by
  apply every.mono
  · exact fun _ _ _ => trivial
  · intro operation choice world admitted frame rest isResponse _ queue
    have isTaken := admitted.2
    rw [isResponse] at isTaken
    simp only [takenMessages, queue] at isTaken
    exact intact world.session.phase frame isTaken

end Taken

private instance (primitives : CryptoPrimitives) (key : PairingKey) (phase : Phase)
    (frame : Bytes) : Decidable (Genuine primitives key phase frame) :=
  inferInstanceAs (Decidable (_ ∧ _))

private theorem genuine_admitted {Result : Type} {primitives : CryptoPrimitives}
    {key : PairingKey} {code : Async Result} {world : World} {events : List SessionEvent}
    (every : eventLoop.EveryStep (faultless.both (takenMessages (Genuine primitives key)))
      (eventLoop.settle code world) events) :
    eventLoop.EveryStep (shadeOfKey primitives key) (eventLoop.settle code world) events ∧
      eventLoop.EveryStep (intactMessages primitives key) (eventLoop.settle code world) events :=
  ⟨takenMessages_shadeOfKey (fun _ _ genuine => genuine.1) every,
    takenMessages_intactMessages (fun _ _ genuine => genuine.2) every⟩

/-- The reply to the version request is lost. -/
private def lostReply : List SessionEvent :=
  openSession ++ [.resume .completed] ++ acknowledgeChunk 1 ++ [.resume .timedOut] ++ closeSession

private def responseTimeout : PythonException :=
  .tiltBleTimeout "Timed out waiting for Tilt response."

/-- A second session in which nothing is lost. -/
private def undisturbedRetry : List SessionEvent :=
  [.resume .completed, .resume .completed, .resume .completed] ++
    connectAndAuthenticate .constant .zero zeroNonce ++
    readFirstStatus .constant .zero zeroNonce .closed ++ closeSession ++
    [.resume (.connected false)]

/-- The first session loses a message. The second loses one, too, or it returns the
status. -/
theorem readStatus_neverWrongKey_lost : ∃ middle last lost,
    eventLoop.run (eventLoop.settle (sampleClient.statusSession .constant) .initial)
        (lostReply ++ [.resume (.connected false)]) =
      some ⟨.done (.error responseTimeout), middle⟩ ∧
    eventLoop.run (eventLoop.settle (sampleClient.retriedSession .constant) middle)
        undisturbedRetry = some ⟨.done (.ok .closed), last⟩ ∧
    eventLoop.run (eventLoop.settle (sampleClient.readStatus .constant) .initial)
        (lostReply ++ [.resume (.connected false), .resume .completed] ++ lostReply ++
          [.resume (.connected false)]) = some ⟨.done (.error responseTimeout), lost⟩ ∧
    responseTimeout.isAuthenticationError = false := by
  have once : (observe (sampleClient.statusSession .constant) .initial
      (lostReply ++ [.resume (.connected false)])).map (·.2) =
        some (some (.error responseTimeout)) := by
    decide +kernel
  have recovered : (observe (sampleClient.readStatus .constant) .initial
      (lostReply ++ [.resume (.connected false)] ++ undisturbedRetry)).map (·.2) =
        some (some (.ok .closed)) := by
    decide +kernel
  have twice : (observe (sampleClient.readStatus .constant) .initial
      (lostReply ++ [.resume (.connected false), .resume .completed] ++ lostReply ++
        [.resume (.connected false)])).map (·.2) = some (some (.error responseTimeout)) := by
    decide +kernel
  rcases Option.map_eq_some_iff.mp once with ⟨⟨onceHistory, onceOutcome⟩, onceSeen, rfl⟩
  rcases Option.map_eq_some_iff.mp recovered with ⟨⟨history, outcome⟩, seen, rfl⟩
  rcases Option.map_eq_some_iff.mp twice with ⟨⟨twiceHistory, twiceOutcome⟩, twiceSeen, rfl⟩
  rcases observe_finished onceSeen with ⟨middle, failed, _⟩
  rcases observe_finished seen with ⟨last, returned, _⟩
  rcases observe_finished twiceSeen with ⟨lost, failedTwice, _⟩
  have onceGenuine := @genuine_admitted _ .constant sampleClient.pairingKey
    (sampleClient.statusSession .constant) .initial (lostReply ++ [.resume (.connected false)])
    (by decide +kernel)
  have twiceGenuine := @genuine_admitted _ .constant sampleClient.pairingKey
    (sampleClient.readStatus .constant) .initial
    (lostReply ++ [.resume (.connected false), .resume .completed] ++ lostReply ++
      [.resume (.connected false)]) (by decide +kernel)
  have retried := (readStatus_neverWrongKey .constant sampleClient .initial middle _ _).2 _
    onceGenuine.1 onceGenuine.2 failed rfl rfl undisturbedRetry
  have neverWrongKey := (readStatus_neverWrongKey .constant sampleClient .initial lost _ _).1
    twiceGenuine.1 twiceGenuine.2 failedTwice
  exact ⟨middle, last, lost, failed, retried.symm.trans returned, failedTwice, neverWrongKey⟩

/-- The reply to the version request, with a byte of its payload flipped. -/
private def corruptedVersions : Bytes := (versionsResponse [1, 2]).set 3 0xFD

private def corruptedReply : List SessionEvent :=
  openSession ++ [.resume .completed] ++ exchangeFrame 1 corruptedVersions 1 ++ closeSession ++
    [.resume (.connected false)]

/-- The first message of the shade is corrupted. The call ends at once as if the pairing
key were another shade's. -/
theorem readStatus_wrongKey_corrupted : ∃ last message,
    eventLoop.EveryStep (shadeOfKey .constant sampleClient.pairingKey)
        (eventLoop.settle (sampleClient.readStatus .constant) .initial) corruptedReply ∧
      FrameFailsChecksum corruptedVersions ∧
      eventLoop.run (eventLoop.settle (sampleClient.readStatus .constant) .initial)
        corruptedReply = some ⟨.done (.error (.authenticationError message)), last⟩ := by
  have raised : (observe (sampleClient.readStatus .constant) .initial corruptedReply).map (·.2) =
      some (some (.error (.authenticationError "Tilt message checksum verification failed."))) := by
    decide +kernel
  rcases Option.map_eq_some_iff.mp raised with ⟨⟨history, outcome⟩, seen, rfl⟩
  rcases observe_finished seen with ⟨last, finished, _⟩
  have carries : eventLoop.EveryStep
      (faultless.both (takenMessages fun _ => CarriesProof .constant sampleClient.pairingKey))
      (eventLoop.settle (sampleClient.readStatus .constant) .initial) corruptedReply := by
    decide +kernel
  refine ⟨last, _, takenMessages_shadeOfKey ?_ carries, ?_, finished⟩
  · exact fun _ _ carries _ => carries
  · decide +kernel

end SmartblindsBle
