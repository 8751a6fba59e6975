import SmartblindsBle.Tilt.CallerView

/-! # What the methods of a session do

Every frame of a session fits into one chunk. For each method, two relations
describe the caller's view while the method runs and when it ends; everything
that is proved about runs of the client follows from them.
-/

namespace SmartblindsBle

open Foundation

namespace CallerView

/-- A chunk was handed out a number of times. -/
def hand (chunk : Bytes) (copies : Nat) (view : CallerView) : CallerView :=
  { view with history := view.history ++ List.replicate copies (.handed chunk) }

/-- The chunk with the current transmit sequence was acknowledged. -/
def confirm (view : CallerView) : CallerView :=
  { view.record (.confirmed view.txSequence) with
    txSequence := sequenceAfter view.txSequence }

/-- Application ids were taken, and a request was encoded. -/
def request (frame : Raises Bytes) (view : CallerView) : CallerView :=
  { view.record (.requested view.counter view.messageId frame) with
    counter := TiltBleSession.counterAfter view.counter
    messageId := TiltBleSession.messageIdAfter view.messageId }

/-- The only chunk of a frame that is sent now. -/
def chunkOf (frame : Bytes) (view : CallerView) : Bytes :=
  dataChunk view.txSequence true frame

@[simp] theorem hand_zero (chunk : Bytes) (view : CallerView) : view.hand chunk 0 = view := by
  simp [hand]

theorem hand_succ (chunk : Bytes) (copies : Nat) (view : CallerView) :
    (view.hand chunk copies).record (.handed chunk) = view.hand chunk (copies + 1) := by
  simp [hand, record, List.replicate_succ']

end CallerView

/-- How often a chunk is handed out at most. -/
def attempts (retryChunks : Bool) : Nat := if retryChunks then 2 else 1

theorem attempts_pos (retryChunks : Bool) : 1 ≤ attempts retryChunks := by
  cases retryChunks <;> decide

/-- The views while a frame is sent that fits into one chunk. -/
inductive Sending (frame : Bytes) (attempts : Nat) (start : CallerView) : CallerView → Prop
  | handing (copies : Nat) (bound : copies ≤ attempts) :
      Sending frame attempts start (start.hand (start.chunkOf frame) copies)
  | confirmed (copies : Nat) (positive : 1 ≤ copies) (bound : copies ≤ attempts) :
      Sending frame attempts start (start.hand (start.chunkOf frame) copies).confirm
  | received (copies : Nat) (positive : 1 ≤ copies) (bound : copies ≤ attempts)
      (reply : Bytes) :
      Sending frame attempts start
        ((start.hand (start.chunkOf frame) copies).confirm.record (.received reply))

/-- How the sending of such a frame ends. -/
inductive Sent (network : Network) (frame : Bytes) (attempts : Nat) (start : CallerView) :
    Raises Bytes → CallerView → Prop
  | refused {error : PythonException} (isOrdinary : error.isOrdinary = true) :
      Sent network frame attempts start (.error error) start
  | unconfirmed (copies : Nat) (positive : 1 ≤ copies) (bound : copies ≤ attempts)
      {error : PythonException} (isOrdinary : error.isOrdinary = true) :
      Sent network frame attempts start (.error error)
        (start.hand (start.chunkOf frame) copies)
  | unanswered (copies : Nat) (positive : 1 ≤ copies) (bound : copies ≤ attempts)
      {error : PythonException} (isOrdinary : error.isOrdinary = true) :
      Sent network frame attempts start (.error error)
        (start.hand (start.chunkOf frame) copies).confirm
  | answered (copies : Nat) (positive : 1 ≤ copies) (bound : copies ≤ attempts)
      (reply : Bytes)
      (admitted : network.message (start.hand (start.chunkOf frame) copies).confirm.history
        reply) :
      Sent network frame attempts start (.ok reply)
        ((start.hand (start.chunkOf frame) copies).confirm.record (.received reply))

theorem Sending.start (frame : Bytes) (attempts : Nat) (start : CallerView) :
    Sending frame attempts start start := by
  have handed : Sending frame attempts start (start.hand (start.chunkOf frame) 0) :=
    .handing 0 (Nat.zero_le attempts)
  rwa [CallerView.hand_zero] at handed

theorem Sent.sending {network : Network} {frame : Bytes} {attempts : Nat} {start later : CallerView}
    {outcome : Raises Bytes} (sent : Sent network frame attempts start outcome later) :
    Sending frame attempts start later := by
  cases sent with
  | refused isOrdinary => exact Sending.start frame attempts start
  | unconfirmed copies positive bound isOrdinary => exact .handing copies bound
  | unanswered copies positive bound isOrdinary => exact .confirmed copies positive bound
  | answered copies positive bound reply admitted => exact .received copies positive bound reply

/-- One step of the handshake: a request is sent and its reply is checked. -/
def HandshakeStep {Value : Type} (network : Network) (frame : Bytes)
    (check : Bytes → Raises Value) (start : CallerView) (outcome : Raises Value)
    (later : CallerView) : Prop :=
  ∃ reply, Sent network frame 2 start reply later ∧ outcome = reply.bind check

def versionsRequest : Bytes := cryptoFrame .requestProtocolVersions []
def selectionRequest (selected : UInt8) : Bytes :=
  cryptoFrame .selectProtocolVersion [selected]
def nonceRequest : Bytes := cryptoFrame .requestNonce []

section Handshake

variable (network : Network) (primitives : CryptoPrimitives) (key : PairingKey)

def VersionsStep : CallerView → Raises UInt8 → CallerView → Prop :=
  HandshakeStep network versionsRequest TiltBleSession.selectedProtocol

def SelectionStep (selected : UInt8) : CallerView → Raises Unit → CallerView → Prop :=
  HandshakeStep network (selectionRequest selected) (TiltBleSession.checkSelection · selected)

def NonceStep : CallerView → Raises Bytes → CallerView → Prop :=
  HandshakeStep network nonceRequest (TiltBleSession.verifiedNonce primitives key)

/-- The views while the handshake runs. -/
inductive Authenticating (start : CallerView) : CallerView → Prop
  | versions {later : CallerView} (sends : Sending versionsRequest 2 start later) :
      Authenticating start later
  | selection {selected : UInt8} {first later : CallerView}
      (versions : VersionsStep network start (.ok selected) first)
      (sends : Sending (selectionRequest selected) 2 first later) :
      Authenticating start later
  | nonce {selected : UInt8} {first second later : CallerView}
      (versions : VersionsStep network start (.ok selected) first)
      (selection : SelectionStep network selected first (.ok ()) second)
      (sends : Sending nonceRequest 2 second later) :
      Authenticating start later
  | verified {selected : UInt8} {nonce : Bytes} {first second third : CallerView}
      (versions : VersionsStep network start (.ok selected) first)
      (selection : SelectionStep network selected first (.ok ()) second)
      (proof : NonceStep network primitives key second (.ok nonce) third) :
      Authenticating start { third with nonce := some nonce }

/-- How the handshake ends. -/
inductive Authenticated (start : CallerView) : Raises Unit → CallerView → Prop
  | versionsFailed {error : PythonException} {later : CallerView}
      (versions : VersionsStep network start (.error error) later) :
      Authenticated start (.error error) later
  | selectionFailed {selected : UInt8} {error : PythonException} {first later : CallerView}
      (versions : VersionsStep network start (.ok selected) first)
      (selection : SelectionStep network selected first (.error error) later) :
      Authenticated start (.error error) later
  | proofFailed {selected : UInt8} {error : PythonException} {first second later : CallerView}
      (versions : VersionsStep network start (.ok selected) first)
      (selection : SelectionStep network selected first (.ok ()) second)
      (proof : NonceStep network primitives key second (.error error) later) :
      Authenticated start (.error error) later
  | verified {selected : UInt8} {nonce : Bytes} {first second third : CallerView}
      (versions : VersionsStep network start (.ok selected) first)
      (selection : SelectionStep network selected first (.ok ()) second)
      (proof : NonceStep network primitives key second (.ok nonce) third) :
      Authenticated start (.ok ()) { third with nonce := some nonce }

variable {network primitives key}

theorem HandshakeStep.sending {Value : Type} {frame : Bytes} {check : Bytes → Raises Value}
    {start later : CallerView} {outcome : Raises Value}
    (step : HandshakeStep network frame check start outcome later) :
    Sending frame 2 start later := by
  rcases step with ⟨reply, sent, _⟩
  exact sent.sending

theorem Authenticated.authenticating {start later : CallerView} {outcome : Raises Unit}
    (ended : Authenticated network primitives key start outcome later) :
    Authenticating network primitives key start later := by
  cases ended with
  | versionsFailed versions => exact .versions (HandshakeStep.sending versions)
  | selectionFailed versions selection =>
      exact .selection versions (HandshakeStep.sending selection)
  | proofFailed versions selection proof =>
      exact .nonce versions selection (HandshakeStep.sending proof)
  | verified versions selection proof => exact .verified versions selection proof

end Handshake

/-- The actions that note how a call on the session ended. -/
def Action.isCallOutcome : Action → Bool
  | .statusRead _ | .positionSet _ => true
  | _ => false

/-- A method of the session that exchanges one application request: how the
request is encoded, how its response is read, and how its outcome is noted. -/
structure SessionCall (primitives : CryptoPrimitives) (key : PairingKey) (Result : Type) where
  encode : (nonce : Bytes) → (counter messageId : Int) → Raises Bytes
  command : ShadeCommand
  encodes : ∀ nonce counter messageId frame, encode nonce counter messageId = .ok frame →
    ∃ payload : Bytes, payload.length ≤ 3 ∧ encodeApplicationRequest primitives command.toInt
      payload key.bytes nonce counter messageId = .ok frame
  encodeErrors : ∀ nonce counter messageId,
    RaisesProtocolErrors (encode nonce counter messageId)
  retryChunks : Bool
  interpret : ApplicationResponse → Raises Result
  interpretErrors : ∀ response, RaisesProtocolErrors (interpret response)
  note : Raises Result → Action
  isCallOutcome : ∀ outcome, (note outcome).isCallOutcome = true

theorem SessionCall.fits {primitives : CryptoPrimitives} {key : PairingKey} {Result : Type}
    (call : SessionCall primitives key Result) {nonce frame : Bytes} {counter messageId : Int}
    (encoded : call.encode nonce counter messageId = .ok frame) :
    frame ≠ [] ∧ frame.length ≤ maxBlePayload := by
  rcases call.encodes nonce counter messageId frame encoded with ⟨payload, short, requested⟩
  have frameLength := (encodeApplicationRequest_length requested).1
  refine ⟨?_, ?_⟩
  · rintro rfl
    rw [List.length_nil] at frameLength
    omega
  · rw [frameLength]
    unfold maxBlePayload
    omega

/-- `read_status`. -/
def statusCall (primitives : CryptoPrimitives) (key : PairingKey) :
    SessionCall primitives key ShadeStatus where
  encode nonce counter messageId :=
    encodeReadRequest primitives ShadeCommand.getStatus.toInt key.bytes nonce counter messageId
  command := .getStatus
  encodes nonce counter messageId frame encoded :=
    ⟨[], by decide, encodeReadRequest_eq_ok encoded⟩
  encodeErrors _ _ _ := malformed_errors (encodeReadRequest_raises _ _ _ _ _ _)
  retryChunks := true
  interpret := parseStatus
  interpretErrors response := malformed_errors (parseStatus_raises response)
  note := .statusRead
  isCallOutcome _ := rfl

/-- `set_position`. -/
def positionCall (primitives : CryptoPrimitives) (key : PairingKey)
    (positionPercent : PythonValue) : SessionCall primitives key Unit where
  encode nonce counter messageId :=
    encodePositionRequest primitives positionPercent key.bytes nonce counter messageId
      TiltBleSession.defaultSpeed
  command := .setPosition
  encodes nonce counter messageId frame encoded := by
    rcases encodePositionRequest_eq_ok encoded with ⟨percent, speed, _, _, _, _, requested⟩
    refine ⟨positionPayload percent speed, ?_, requested⟩
    simp [positionPayload]
  encodeErrors _ _ _ := malformed_errors (encodePositionRequest_raises _ _ _ _ _ _ _)
  retryChunks := false
  interpret _ := .ok ()
  interpretErrors _ := nofun
  note := .positionSet
  isCallOutcome _ := rfl

section Calls

variable {primitives : CryptoPrimitives} {key : PairingKey} {Result : Type}

/-- The views while an application request is exchanged. -/
inductive Exchanging (call : SessionCall primitives key Result) (start : CallerView) :
    CallerView → Prop
  | idle : Exchanging call start start
  | unencoded {nonce : Bytes} {error : PythonException} (isNonce : start.nonce = some nonce)
      (encoded : call.encode nonce start.counter start.messageId = .error error) :
      Exchanging call start (start.request (.error error))
  | sending {nonce frame : Bytes} {later : CallerView} (isNonce : start.nonce = some nonce)
      (encoded : call.encode nonce start.counter start.messageId = .ok frame)
      (sends : Sending frame (attempts call.retryChunks) (start.request (.ok frame)) later) :
      Exchanging call start later

/-- How the exchange of an application request ends. -/
inductive Exchanged (network : Network) (call : SessionCall primitives key Result)
    (start : CallerView) : Raises ApplicationResponse → CallerView → Prop
  | unauthenticated (isNone : start.nonce = none) {error : PythonException}
      (isOrdinary : error.isOrdinary = true) :
      Exchanged network call start (.error error) start
  | unencoded {nonce : Bytes} {error : PythonException} (isNonce : start.nonce = some nonce)
      (encoded : call.encode nonce start.counter start.messageId = .error error) :
      Exchanged network call start (.error error) (start.request (.error error))
  | sent {nonce frame : Bytes} {outcome : Raises Bytes} {later : CallerView}
      (isNonce : start.nonce = some nonce)
      (encoded : call.encode nonce start.counter start.messageId = .ok frame)
      (sent : Sent network frame (attempts call.retryChunks) (start.request (.ok frame)) outcome
        later) :
      Exchanged network call start
        (outcome.bind fun reply => decodeApplicationResponse primitives reply key.bytes nonce
          call.command start.messageId (some start.counter)) later

theorem Exchanged.exchanging {network : Network} {call : SessionCall primitives key Result}
    {start later : CallerView} {response : Raises ApplicationResponse}
    (exchanged : Exchanged network call start response later) :
    Exchanging call start later := by
  cases exchanged with
  | unauthenticated isNone isOrdinary => exact .idle
  | unencoded isNonce encoded => exact .unencoded isNonce encoded
  | sent isNonce encoded sent => exact .sending isNonce encoded sent.sending

/-- How a call ends: its outcome is noted last. -/
def CallEnds (network : Network) (call : SessionCall primitives key Result) (start : CallerView)
    (outcome : Raises Result) (later : CallerView) : Prop :=
  ∃ response exchanged, Exchanged network call start response exchanged ∧
    outcome = response.bind call.interpret ∧ later = exchanged.record (call.note outcome)

theorem Sent.ordinary {network : Network} {frame : Bytes} {attempts : Nat}
    {start later : CallerView} {outcome : Raises Bytes}
    (sent : Sent network frame attempts start outcome later) : Ordinary outcome := by
  cases sent with
  | refused isOrdinary => exact ordinary_error isOrdinary
  | unconfirmed copies positive bound isOrdinary => exact ordinary_error isOrdinary
  | unanswered copies positive bound isOrdinary => exact ordinary_error isOrdinary
  | answered copies positive bound reply admitted => exact ordinary_ok reply

theorem RaisesProtocolErrors.ordinary {Value : Type} {outcome : Raises Value}
    (errors : RaisesProtocolErrors outcome) : Ordinary outcome :=
  fun error failed => PythonException.isOrdinary_of_isTiltProtocolError (errors error failed)

theorem Ordinary.bind {First Second : Type} {first : Raises First}
    {second : First → Raises Second} (firstOrdinary : Ordinary first)
    (secondOrdinary : ∀ value, Ordinary (second value)) : Ordinary (first.bind second) := by
  cases first with
  | error error => exact ordinary_error (firstOrdinary error rfl)
  | ok value => exact secondOrdinary value

theorem CallEnds.ordinary {network : Network} {call : SessionCall primitives key Result}
    {start later : CallerView} {outcome : Raises Result}
    (ended : CallEnds network call start outcome later) : Ordinary outcome := by
  rcases ended with ⟨response, last, exchanged, rfl, _⟩
  refine Ordinary.bind ?_ fun response => (call.interpretErrors response).ordinary
  cases exchanged with
  | unauthenticated isNone isOrdinary => exact ordinary_error isOrdinary
  | unencoded isNonce encoded =>
      exact ordinary_error ((call.encodeErrors _ _ _).ordinary _ encoded)
  | sent isNonce encoded sent =>
      exact sent.ordinary.bind fun reply =>
        (decodeApplicationResponse_errors _ _ _ _ _ _ _).ordinary

/-- The views while a call runs. -/
def Calling (network : Network) (call : SessionCall primitives key Result)
    (start later : CallerView) : Prop :=
  Exchanging call start later ∨ ∃ outcome, CallEnds network call start outcome later

theorem CallEnds.calling {network : Network} {call : SessionCall primitives key Result}
    {start later : CallerView} {outcome : Raises Result}
    (ended : CallEnds network call start outcome later) : Calling network call start later :=
  .inr ⟨outcome, ended⟩

end Calls

namespace TiltBleSession

variable {network : Network}

/-! ## Sending -/

theorem writeGattChar_behaves {Result : Type} {view : CallerView} {chunk : Bytes}
    {resume : Raises Unit → Async Result} {during : CallerView → Prop}
    {ends : Raises Result → CallerView → Prop}
    (holds : during (view.record (.handed chunk)))
    (behaves : ∀ reply, Ordinary reply →
      Behaves network (resume reply) (view.record (.handed chunk)) during ends) :
    Behaves network (.await (.writeGattChar chunk) resume) view during ends := by
  intro world same admits later interferes
  have sameLater : later.callerView = view.record (.handed chunk) := by
    rw [interferes.1, ← same]
    exact world.callerView_record rfl
  have admitsLater : network.Admits later := by
    refine interferes.2 (admits.grow (List.Subset.refl _) ?_)
    change world.callerView.history <+: (world.record (.handed chunk)).callerView.history
    rw [world.callerView_record rfl]
    exact List.prefix_append _ _
  rw [← sameLater] at holds behaves
  refine ⟨holds, ?_⟩
  intro choice reply after answered
  have notResponse : Operation.writeGattChar chunk ≠ .getResponse := nofun
  have possible := World.answer_cases notResponse answered
  have unchanged := possible.1
  subst unchanged
  exact behaves reply (possible.2 nofun) after rfl admitsLater

theorem current_then_behaves {Result : Type} {rest : World → Async Result} {view : CallerView}
    {during : CallerView → Prop} {ends : Raises Result → CallerView → Prop}
    (behaves : ∀ world : World, world.callerView = view →
      Behaves network (rest world) view during ends) :
    Behaves network (Coroutine.current >>= rest) view during ends :=
  Behaves.inspect behaves

/-- A change of the session by the caller itself; the rest of the task goes on
before anybody can see the world. -/
theorem modify_then_behaves {Result : Type} {transform : TiltBleSession → TiltBleSession}
    {rest : Unit → Async Result} {view : CallerView} (change : CallerView → CallerView)
    (changes : ∀ world, (World.modifySession transform world).callerView =
      change world.callerView)
    (sameQueue : ∀ session, (transform session).responseQueue = session.responseQueue)
    (sameHistory : (change view).history = view.history) {during : CallerView → Prop}
    {ends : Raises Result → CallerView → Prop}
    (behaves : Behaves network (rest ()) (change view) during ends) :
    Behaves network (modify transform >>= rest) view during ends := by
  refine Behaves.update (change view) ?_ (fun world => ?_) ?_ behaves
  · intro world same
    rw [← same]
    exact changes world
  · exact fun item queued => sameQueue world.session ▸ queued
  · exact sameHistory ▸ List.prefix_refl _

theorem modify_waiters_behaves {waiters : TiltBleSession → Nat → Option AckWaiter}
    {view : CallerView} {during : CallerView → Prop} {ends : Raises Unit → CallerView → Prop}
    (holds : during view) (allowed : ends (.ok ()) view) :
    Behaves network (modify fun session => { session with ackWaiters := waiters session }) view
      during ends :=
  Behaves.update view (fun _ same => same) (fun _ => List.Subset.refl _) (List.prefix_refl _)
    (Behaves.done holds allowed)

theorem record_then_behaves {Result : Type} {action : Action}
    (isOwn : action.isAcknowledged = false) {rest : Unit → Async Result} {view : CallerView}
    {during : CallerView → Prop} {ends : Raises Result → CallerView → Prop}
    (behaves : Behaves network (rest ()) (view.record action) during ends) :
    Behaves network (record action >>= rest) view during ends := by
  refine Behaves.update (view.record action) ?_ (fun _ => List.Subset.refl _)
    (List.prefix_append _ _) behaves
  intro world same
  rw [world.callerView_record isOwn, same]

theorem popWaiter_behaves (sequence : Nat) {chunk : Bytes} {isLast : Bool} {view : CallerView}
    {outcome : Raises Bool}
    (allowed : Ordinary outcome ∧ (isLast = true → outcome ≠ .ok false)) :
    Behaves network (modify (popWaiter sequence)) (view.record (.handed chunk))
      (fun later => later = view ∨ later = view.record (.handed chunk))
      (fun cleaned last =>
        match cleaned with
        | .ok _ => last = view.record (.handed chunk) ∧ Ordinary outcome ∧
            (isLast = true → outcome ≠ .ok false)
        | .error error => last = view.record (.handed chunk) ∧
            Ordinary (.error error : Raises Bool) ∧
            (isLast = true → (Except.error error : Raises Bool) ≠ .ok false)) :=
  modify_waiters_behaves (.inr rfl) ⟨rfl, allowed⟩

/-- An attempt hands the chunk out once; the last one does not ask for another. -/
theorem attemptChunk_behaves (chunk : Bytes) (sequence : Nat) (isLast : Bool)
    (view : CallerView) :
    Behaves network (attemptChunk chunk sequence isLast) view
      (fun later => later = view ∨ later = view.record (.handed chunk))
      (fun outcome later => later = view.record (.handed chunk) ∧ Ordinary outcome ∧
        (isLast = true → outcome ≠ .ok false)) := by
  have handler : ∀ error : PythonException, error.isOrdinary = true →
      Behaves network
        (if error = .timeoutError then
          if isLast then
            throw (.tiltBleTimeout
              ("Timed out waiting for BLE ACK sequence " ++ toString sequence ++ "."))
          else pure false
        else throw error : Async Bool) (view.record (.handed chunk))
        (fun later => later = view ∨ later = view.record (.handed chunk))
        (fun outcome later => later = view.record (.handed chunk) ∧ Ordinary outcome ∧
          (isLast = true → outcome ≠ .ok false)) := by
    intro error isOrdinary
    refine Behaves.ite (fun _ => ?_) fun _ =>
      Behaves.done (.inr rfl) ⟨rfl, ordinary_error isOrdinary, fun _ => nofun⟩
    cases isLast with
    | true => exact Behaves.done (.inr rfl) ⟨rfl, ordinary_error rfl, nofun⟩
    | false => exact Behaves.done (.inr rfl) ⟨rfl, ordinary_ok _, nofun⟩
  refine Behaves.bind (modify_waiters_behaves (.inl rfl) ?_)
  refine Behaves.tryFinally (Behaves.tryCatch (Behaves.bind ?_))
  apply writeGattChar_behaves (.inr rfl)
  intro written isOrdinary
  cases written with
  | error error =>
      refine Behaves.done (.inr rfl) ((handler error (isOrdinary error rfl)).mono (fun _ => id) ?_)
      rintro outcome later ⟨rfl, allowed⟩
      exact popWaiter_behaves sequence allowed
  | ok _ =>
      refine Behaves.done (.inr rfl) (Behaves.bind
        (Behaves.await (fun _ => rfl) nofun (.inr rfl) ?_))
      intro acknowledged answers
      cases acknowledged with
      | error error =>
          have isOrdinary := answers.ordinary nofun nofun error rfl
          refine Behaves.done (.inr rfl) ((handler error isOrdinary).mono (fun _ => id) ?_)
          rintro outcome later ⟨rfl, allowed⟩
          exact popWaiter_behaves sequence allowed
      | ok _ =>
          exact Behaves.done (.inr rfl)
            (Behaves.done (.inr rfl) (popWaiter_behaves sequence ⟨ordinary_ok _, fun _ => nofun⟩))

theorem sendChunk_behaves (chunk : Bytes) (sequence : Nat) {remaining : Nat}
    (positive : 1 ≤ remaining) (start : CallerView) (before : Nat) :
    Behaves network (sendChunk chunk sequence remaining) (start.hand chunk before)
      (fun later => ∃ copies ≤ before + remaining, later = start.hand chunk copies)
      (fun outcome later => Ordinary outcome ∧ ∃ copies, 1 ≤ copies ∧
        copies ≤ before + remaining ∧ later = start.hand chunk copies) := by
  induction remaining generalizing before with
  | zero => omega
  | succ remaining induction =>
      rw [sendChunk]
      refine Behaves.bind ((attemptChunk_behaves chunk sequence _ _).mono ?_ ?_)
      · rintro later (rfl | rfl)
        · exact ⟨before, by omega, rfl⟩
        · exact ⟨before + 1, by omega, start.hand_succ chunk before⟩
      · rintro outcome later ⟨rfl, isOrdinary, allowed⟩
        rw [start.hand_succ chunk before]
        rcases outcome with error | ⟨⟨⟩⟩
        · exact ⟨ordinary_error (isOrdinary error rfl), before + 1, by omega, by omega, rfl⟩
        · have more : 1 ≤ remaining := by
            by_contra isLast
            exact allowed (by simp; omega) rfl
          refine (induction more (before + 1)).mono ?_ ?_
          · rintro later ⟨copies, bound, rfl⟩
            exact ⟨copies, by omega, rfl⟩
          · rintro outcome later ⟨isOrdinary, copies, atLeastOne, bound, rfl⟩
            exact ⟨isOrdinary, copies, atLeastOne, by omega, rfl⟩
        · exact Behaves.done ⟨before + 1, by omega, rfl⟩
            ⟨ordinary_ok _, before + 1, by omega, by omega, rfl⟩

theorem getResponse_behaves {Result : Type} {view : CallerView}
    {resume : Raises ResponseItem → Async Result} {during : CallerView → Prop}
    {ends : Raises Result → CallerView → Prop} (holds : during view)
    (fails : Behaves network (resume (.error .timeoutError)) view during ends)
    (raises : ∀ error, Behaves network (resume (.ok (.exception error))) view during ends)
    (receives : ∀ frame, network.message view.history frame →
      Behaves network (resume (.ok (.message frame))) (view.record (.received frame)) during
        ends) :
    Behaves network (.await .getResponse resume) view during ends := by
  intro world same admits later interferes
  have sameLater : later.callerView = view := interferes.1.trans same
  have admitsLater := interferes.2 admits
  subst sameLater
  refine ⟨holds, ?_⟩
  intro choice reply after answered
  cases choice with
  | completed =>
      simp only [eventLoop, World.answer, World.complete] at answered
      split at answered
      · cases answered
      · next item rest queue =>
          have keeps : network.Admits (later.modifySession
              fun session => { session with responseQueue := rest }) := by
            intro frame queued
            apply admitsLater
            rw [queue]
            exact List.mem_cons_of_mem _ queued
          cases item with
          | message frame =>
              cases answered
              have admitted : network.message later.callerView.history frame := by
                apply admitsLater
                rw [queue]
                exact List.mem_cons_self
              have viewAfter : ((later.modifySession fun session =>
                    { session with responseQueue := rest }).record (.received frame)).callerView =
                  later.callerView.record (.received frame) :=
                World.callerView_record _ rfl
              refine receives frame admitted _ viewAfter (keeps.grow (List.Subset.refl _) ?_)
              rw [viewAfter]
              exact List.prefix_append _ _
          | exception error =>
              cases answered
              exact raises error _ rfl keeps
  | timedOut =>
      cases answered
      exact fails _ rfl admitsLater
  | failed error => simp [eventLoop, World.answer, Operation.callsClient] at answered
  | connected connected => cases answered

theorem awaitResponse_behaves {view : CallerView} {during : CallerView → Prop}
    {ends : Raises Bytes → CallerView → Prop} (holds : during view)
    (fails : ∀ error, error.isOrdinary = true → ends (.error error) view)
    (receives : ∀ frame, network.message view.history frame →
      during (view.record (.received frame)) ∧
        ends (.ok frame) (view.record (.received frame))) :
    Behaves network awaitResponse view during ends := by
  refine Behaves.bind (Behaves.tryCatch (getResponse_behaves holds ?_ ?_ ?_))
  · exact Behaves.done holds (Behaves.done holds (fails _ rfl))
  · intro error
    exact Behaves.done holds (Behaves.done holds (fails error.val error.property))
  · intro frame admitted
    have received := receives frame admitted
    exact Behaves.done received.1 (Behaves.done received.1 received.2)

/-- The loop over the chunks of a frame that fits into one. -/
theorem sendChunks_behaves {frame : Bytes} {start : CallerView} (retryChunks : Bool)
    (positive : 1 ≤ start.txSequence) (bound : start.txSequence ≤ maxSequence) :
    Behaves network (sendChunks retryChunks [start.chunkOf frame]) start
      (Sending frame (attempts retryChunks) start)
      (fun outcome later => Ordinary outcome ∧ ∃ copies, 1 ≤ copies ∧
        copies ≤ attempts retryChunks ∧ match outcome with
        | .ok _ => later = (start.hand (start.chunkOf frame) copies).confirm
        | .error _ => later = start.hand (start.chunkOf frame) copies) := by
  have sequenceOf : ((start.chunkOf frame).getD 1 0 &&& 0x3F).toNat = start.txSequence :=
    chunkFlags_sequence bound true
  have sends := @sendChunk_behaves network (start.chunkOf frame) start.txSequence _
    (attempts_pos retryChunks) start 0
  rw [CallerView.hand_zero, Nat.zero_add] at sends
  rw [sendChunks, sequenceOf]
  refine Behaves.bind (sends.mono ?_ ?_)
  · rintro later ⟨copies, fits, rfl⟩
    exact .handing copies fits
  · rintro outcome later ⟨isOrdinary, copies, atLeastOne, fits, rfl⟩
    cases outcome with
    | error error => exact ⟨isOrdinary, copies, atLeastOne, fits, rfl⟩
    | ok _ =>
        apply record_then_behaves rfl
        simp only [nextSequence_eq positive bound, Coroutine.ofExcept_ok_bind]
        refine modify_then_behaves
          (fun view => { view with txSequence := sequenceAfter start.txSequence })
          (fun _ => rfl) ?_ rfl ?_
        · exact fun _ => rfl
        · exact Behaves.done (.confirmed copies atLeastOne fits)
            ⟨ordinary_ok _, copies, atLeastOne, fits, rfl⟩

theorem sendFrame_behaves {frame : Bytes} (nonempty : frame ≠ [])
    (fits : frame.length ≤ maxBlePayload) (retryChunks : Bool) (start : CallerView) :
    Behaves network (sendFrame frame retryChunks) start
      (Sending frame (attempts retryChunks) start)
      (Sent network frame (attempts retryChunks) start) := by
  have startHolds := Sending.start frame (attempts retryChunks) start
  apply current_then_behaves
  intro world same
  have sameSequence : world.session.txSequence = start.txSequence := by rw [← same]; rfl
  rw [sameSequence]
  split
  · by_cases inRange : 1 ≤ start.txSequence ∧ start.txSequence ≤ maxSequence
    · rw [chunkForBle_single nonempty fits inRange.1 inRange.2, Coroutine.ofExcept_ok_bind]
      refine Behaves.bind ((sendChunks_behaves retryChunks inRange.1 inRange.2).mono
        (fun _ => id) ?_)
      rintro (error | ⟨⟩) later ⟨isOrdinary, copies, positive, bound, rfl⟩
      · exact .unconfirmed copies positive bound (isOrdinary error rfl)
      · exact awaitResponse_behaves (.confirmed copies positive bound)
          (fun error isOrdinary => .unanswered copies positive bound isOrdinary)
          (fun reply admitted => ⟨.received copies positive bound reply,
            .answered copies positive bound reply admitted⟩)
    · rw [chunkForBle, if_neg nonempty, if_pos inRange, Coroutine.ofExcept_error_bind]
      exact Behaves.done startHolds (.refused rfl)
  · exact Behaves.done startHolds (.refused rfl)

/-! ## Application requests -/

variable {primitives : CryptoPrimitives} {key : PairingKey} {Result : Type}

theorem takeApplicationIds_then_behaves {rest : Int × Int → Async Result}
    {view : CallerView} {during : CallerView → Prop} {ends : Raises Result → CallerView → Prop}
    (behaves : Behaves network (rest (view.counter, view.messageId))
      { view with
        counter := counterAfter view.counter
        messageId := messageIdAfter view.messageId } during ends) :
    Behaves network (takeApplicationIds >>= rest) view during ends := by
  apply Behaves.inspect
  rintro world rfl
  refine Behaves.update { world.callerView with
      counter := counterAfter world.session.counter
      messageId := messageIdAfter world.session.messageId } ?_ (fun _ => List.Subset.refl _)
    (List.prefix_refl _) behaves
  intro other same
  exact congrArg (fun view => { view with
    counter := counterAfter world.session.counter
    messageId := messageIdAfter world.session.messageId }) same

theorem exchange_behaves (call : SessionCall primitives key Result) (start : CallerView) :
    Behaves network (exchange primitives key call.encode call.command call.retryChunks) start
      (Exchanging call start) (Exchanged network call start) := by
  refine Behaves.bind (current_then_behaves ?_)
  intro world same
  have sameNonce : world.session.nonce = start.nonce := by rw [← same]; rfl
  rw [sameNonce]
  cases isNonce : start.nonce with
  | none => exact Behaves.done .idle (.unauthenticated isNonce rfl)
  | some nonce =>
      refine Behaves.done .idle (takeApplicationIds_then_behaves ?_)
      apply record_then_behaves rfl
      cases encoded : call.encode nonce start.counter start.messageId with
      | error error => exact Behaves.done (.unencoded isNonce encoded) (.unencoded isNonce encoded)
      | ok frame =>
          rcases call.fits encoded with ⟨nonempty, short⟩
          rw [Coroutine.ofExcept_ok_bind]
          refine Behaves.bind ((sendFrame_behaves nonempty short call.retryChunks
            (start.request (.ok frame))).mono ?_ ?_)
          · exact fun later sends => .sending isNonce encoded sends
          · intro outcome later sent
            cases outcome with
            | error error => exact .sent isNonce encoded sent
            | ok reply =>
                exact Behaves.done (.sending isNonce encoded sent.sending)
                  (.sent isNonce encoded sent)

theorem reported_behaves {note : Raises Result → Action}
    (isCallOutcome : ∀ outcome, (note outcome).isCallOutcome = true) {body : Async Result}
    {view : CallerView} {during : CallerView → Prop} {ends : Raises Result → CallerView → Prop}
    (behaves : Behaves network body view during fun outcome later =>
      during later ∧ during (later.record (note outcome)) ∧
        ends outcome (later.record (note outcome))) :
    Behaves network (reported note body) view during ends := by
  have isOwn : ∀ outcome, (note outcome).isAcknowledged = false := by
    intro outcome
    have isOutcome := isCallOutcome outcome
    cases isNote : note outcome <;> simp_all [Action.isCallOutcome, Action.isAcknowledged]
  refine Behaves.tryCatch (Behaves.bind (behaves.mono (fun _ => id) ?_))
  rintro (error | value) later ⟨_, holds, allowed⟩
  · exact record_then_behaves (isOwn _) (Behaves.done holds allowed)
  · exact record_then_behaves (isOwn _) (Behaves.done holds allowed)

/-- The code of a call. -/
def callCode (call : SessionCall primitives key Result) : Async Result :=
  reported call.note do
    let response ← exchange primitives key call.encode call.command call.retryChunks
    Coroutine.ofExcept (call.interpret response)

theorem callCode_behaves (call : SessionCall primitives key Result) (start : CallerView) :
    Behaves network (callCode call) start (Calling network call start)
      (CallEnds network call start) := by
  refine reported_behaves call.isCallOutcome
    (Behaves.bind ((exchange_behaves call start).mono ?_ ?_))
  · exact fun later exchanging => .inl exchanging
  · intro response later exchanged
    have ended : CallEnds network call start (response.bind call.interpret)
        (later.record (call.note (response.bind call.interpret))) :=
      ⟨response, later, exchanged, rfl, rfl⟩
    cases response with
    | error error => exact ⟨.inl exchanged.exchanging, .inr ⟨_, ended⟩, ended⟩
    | ok response =>
        exact Behaves.done (.inl exchanged.exchanging)
          ⟨.inl exchanged.exchanging, .inr ⟨_, ended⟩, ended⟩

theorem readStatus_behaves (start : CallerView) :
    Behaves network (readStatus primitives key) start
      (Calling network (statusCall primitives key) start)
      (CallEnds network (statusCall primitives key) start) :=
  callCode_behaves (statusCall primitives key) start

theorem setPosition_behaves (positionPercent : PythonValue) (start : CallerView) :
    Behaves network (setPosition primitives key positionPercent) start
      (Calling network (positionCall primitives key positionPercent) start)
      (CallEnds network (positionCall primitives key positionPercent) start) :=
  callCode_behaves (positionCall primitives key positionPercent) start

/-! ## The handshake -/

theorem sleep_behaves {seconds : Rat} {view : CallerView} {during : CallerView → Prop}
    {ends : Raises Unit → CallerView → Prop} (holds : during view)
    (allowed : ends (.ok ()) view) :
    Behaves network (await (.sleep seconds)) view during ends := by
  refine Behaves.await (fun _ => rfl) nofun holds ?_
  intro reply answers
  rw [Operation.sleep_answers answers]
  exact Behaves.done holds allowed

/-- One step of the handshake: a request, and the check of its reply. -/
theorem handshakeStep_behaves {Value : Type} {frame : Bytes} (nonempty : frame ≠ [])
    (fits : frame.length ≤ maxBlePayload) {check : Bytes → Raises Value}
    {rest : Value → Async Result} {start : CallerView} {during : CallerView → Prop}
    {ends : Raises Result → CallerView → Prop}
    (sends : ∀ later, Sending frame 2 start later → during later)
    (fails : ∀ error later, HandshakeStep network frame check start (.error error) later →
      ends (.error error) later)
    (behaves : ∀ value later, HandshakeStep network frame check start (.ok value) later →
      Behaves network (rest value) later during ends) :
    Behaves network
      (do
        let reply ← sendFrame frame true
        let value ← Coroutine.ofExcept (check reply)
        rest value) start during ends := by
  refine Behaves.bind ((sendFrame_behaves nonempty fits true start).mono sends ?_)
  intro outcome later sent
  have step : HandshakeStep network frame check start (outcome.bind check) later :=
    ⟨outcome, sent, rfl⟩
  cases outcome with
  | error error => exact fails error later step
  | ok reply =>
      change HandshakeStep network frame check start (check reply) later at step
      dsimp only
      cases checked : check reply with
      | error error =>
          rw [checked] at step
          exact Behaves.done (sends later sent.sending) (fails error later step)
      | ok value =>
          rw [checked] at step
          exact behaves value later step

theorem selectedProtocol_supported {frame : Bytes} {selected : UInt8}
    (chosen : selectedProtocol frame = .ok selected) : selected ∈ supportedCryptoProtocols := by
  unfold selectedProtocol at chosen
  split at chosen
  · cases chosen
  · split at chosen
    · cases chosen
    · split at chosen
      · cases chosen
      · next found =>
          cases chosen
          exact List.mem_of_find?_eq_some found

theorem encodeProtocolSelection_eq {selected : UInt8}
    (supported : selected ∈ supportedCryptoProtocols) :
    encodeProtocolSelection selected.toNat = .ok (selectionRequest selected) := by
  have inRange : 0 ≤ (selected.toNat : Int) ∧ (selected.toNat : Int) < 256 := by
    have bound := selected.toNat_lt
    omega
  rw [encodeProtocolSelection, if_pos inRange, Int.toNat_natCast, UInt8.ofNat_toNat]
  simp only [encodeCryptoRequest, supported, reduceIte]
  rfl

theorem authenticate_behaves (start : CallerView) :
    Behaves network (authenticate primitives key) start
      (Authenticating network primitives key start)
      (Authenticated network primitives key start) := by
  refine Behaves.bind (sleep_behaves (.versions (Sending.start _ _ _)) ?_)
  refine handshakeStep_behaves (cryptoFrame_nonempty _ _) (by decide)
    (fun later sends => .versions sends) (fun error later step => .versionsFailed step) ?_
  intro selected first versions
  have supported : selected ∈ supportedCryptoProtocols := by
    rcases versions with ⟨reply | reply, sent, chosen⟩
    · cases chosen
    · exact selectedProtocol_supported chosen.symm
  refine Behaves.bind (sleep_behaves (.selection versions (Sending.start _ _ _)) ?_)
  dsimp only
  rw [encodeProtocolSelection_eq supported, Coroutine.ofExcept_ok_bind]
  refine handshakeStep_behaves (cryptoFrame_nonempty _ _)
    (by simp [maxBlePayload]) (fun later sends => .selection versions sends)
    (fun error later step => .selectionFailed versions step) ?_
  intro accepted second selection
  refine Behaves.bind (sleep_behaves (.nonce versions selection (Sending.start _ _ _)) ?_)
  refine handshakeStep_behaves (cryptoFrame_nonempty _ _) (by decide)
    (fun later sends => .nonce versions selection sends)
    (fun error later step => .proofFailed versions selection step) ?_
  intro nonce third proof
  refine modify_then_behaves (fun view => { view with nonce := some nonce }) (fun _ => rfl) ?_ rfl
    ?_
  · exact fun _ => rfl
  · exact sleep_behaves (.verified versions selection proof) (.verified versions selection proof)

end TiltBleSession

end SmartblindsBle
