import SmartblindsBle.Foundation.Viewpoints
import SmartblindsBle.Tilt.CallerView
import SmartblindsBle.Tilt.CodecErrors

/-! # Which exceptions leave a call

An exception that leaves `read_status` was raised by the BLE client, by a timer
or by the codec, or it was injected by the notification worker. The methods are
followed from the conditions on the steps of a run to the exceptions that can
leave the call.
-/

namespace SmartblindsBle

open Foundation

namespace PythonException

/-- Instances of `TiltBleCleanupError`. -/
def isTiltBleCleanupError : PythonException → Bool
  | .tiltBleCleanupError _ => true
  | _ => false

/-- The exceptions that the client declares: its own, those of its BLE client,
and the time-outs. -/
def isDeclared (error : PythonException) : Bool :=
  error.isBleakError || error.isTiltBleError || error.isTiltProtocolError ||
    error == .timeoutError || error.isTiltBleCleanupError

theorem isTransient_of_isDeclared {error : PythonException} (declared : error.isDeclared = true)
    (notAuthentication : error.isAuthenticationError = false)
    (notCleanup : error.isTiltBleCleanupError = false) :
    TiltShadeClient.isTransient error = true := by
  simpa [TiltShadeClient.isTransient, isDeclared, notAuthentication, notCleanup] using declared

theorem isDeclared_of_isMalformed {error : PythonException} (malformed : error.isMalformed = true) :
    error.isDeclared = true ∧ error.isAuthenticationError = false := by
  simp only [isMalformed, Bool.and_eq_true, Bool.not_eq_true'] at malformed
  simp [isDeclared, malformed.1, malformed.2]

end PythonException

/-! ## Injected exceptions -/

/-- Every exception that the worker has injected is allowed. -/
def Injected (allowed : PythonException → Prop) (session : TiltBleSession) : Prop :=
  (∀ sequence error, session.ackWaiters sequence = some (.failed error) → allowed error.val) ∧
    ∀ error, ResponseItem.exception error ∈ session.responseQueue → allowed error.val

/-- What decides how the next message is checked: the nonce of the session, and the
counter that follows the last request. -/
structure Phase where
  nonce : Option Bytes
  counter : Int

def TiltBleSession.phase (session : TiltBleSession) : Phase := ⟨session.nonce, session.counter⟩

/-- The phase of the session, if there is one. -/
def World.phase (world : World) : Option Phase :=
  if world.hasSession then some world.session.phase else none

theorem World.phase_eq_some {world : World} {phase : Phase} :
    world.phase = some phase ↔ world.hasSession = true ∧ world.session.phase = phase := by
  simp [World.phase]

/-- If there is a session, its injected exceptions are allowed. -/
def World.Sound (allowed : PythonException → Prop) (world : World) : Prop :=
  world.hasSession = true → Injected allowed world.session

/-- A class of runs in which only the allowed exceptions are raised or injected,
and in which every message that is taken satisfies `taken`. -/
structure Contains (admission : Admission World Operation Background Choice)
    (allowed : PythonException → Prop) (taken : Phase → Bytes → Prop) : Prop where
  injects : ∀ action before after, admission.background action before →
    World.background action before = some after → Injected allowed before.session →
      Injected allowed after.session
  raises : ∀ operation error world, admission.answer operation (.failed error) world →
    allowed error
  takes : ∀ frame rest world, world.session.responseQueue = .message frame :: rest →
    admission.answer .getResponse .completed world → taken world.session.phase frame
  declared : ∀ error, error.isDeclared = true → error.isAuthenticationError = false →
    allowed error

section Containment

variable {admission : Admission World Operation Background Choice}
variable {allowed : PythonException → Prop} {taken : Phase → Bytes → Prop}

theorem World.background_hasSession {action : Background} {before after : World}
    (stepped : World.background action before = some after) :
    after.hasSession = before.hasSession :=
  congrArg CallerView.hasSession (World.background_callerView stepped)

/-- The caller's task in such a class of runs. -/
noncomputable def Contains.viewpoint (contains : Contains admission allowed taken) :
    Viewpoint World Operation Operation.Reply PythonException Background Choice
      (Option Phase) where
  environment := eventLoop.restrict admission
  view := World.phase
  sound := World.Sound allowed
  sameView := by
    intro action before after stepped
    have moved := Environment.restrict_background.mp stepped
    have same := World.background_callerView moved.2
    have sameNonce : after.session.nonce = before.session.nonce := congrArg CallerView.nonce same
    have sameCounter : after.session.counter = before.session.counter :=
      congrArg CallerView.counter same
    have sameSession : after.hasSession = before.hasSession :=
      congrArg CallerView.hasSession same
    rw [World.phase, World.phase, TiltBleSession.phase, TiltBleSession.phase, sameNonce,
      sameCounter, sameSession]
  keepsSound := by
    intro action before after stepped sound hasSession
    have moved := Environment.restrict_background.mp stepped
    rw [World.background_hasSession moved.2] at hasSession
    exact contains.injects action before after moved.1 moved.2 (sound hasSession)

/-! ## Suspension points -/

/-- The operations that take no response and await no worker. -/
def Operation.isSimple : Operation → Bool
  | .getResponse | .awaitWorker => false
  | _ => true

theorem Operation.isSimple_ne {operation : Operation} (simple : operation.isSimple = true) :
    operation ≠ .getResponse ∧ operation ≠ .awaitWorker := by
  constructor
  · intro same
    rw [same] at simple
    cases simple
  · intro same
    rw [same] at simple
    cases simple

variable (contains : Contains admission allowed taken)

include contains in
/-- Only a failing BLE client, a timer or an injected exception ends a wait with
an exception. -/
theorem Contains.answer_raises {operation : Operation} (simple : operation.isSimple = true)
    {choice : Choice} {world after : World} {reply : Raises operation.Reply}
    (injected : operation.isTimed = true → Injected allowed world.session)
    (admitted : admission.answer operation choice world)
    (answered : World.answer operation choice world = some (reply, after)) :
    RaisesOnly allowed reply := by
  cases choice with
  | completed =>
      cases operation <;> simp only [World.answer, World.complete] at answered
      case isConnected => cases answered
      case getResponse => cases simple
      case awaitWorker => cases simple
      case waitAck sequence =>
          split at answered
          · cases answered
            exact RaisesOnly.ok _
          · next failure failed =>
              cases answered
              intro error same
              cases same
              exact (injected rfl).1 sequence failure failed
          · cases answered
      all_goals
        cases answered
        exact RaisesOnly.ok _
  | timedOut =>
      simp only [World.answer, Option.ite_none_right_eq_some] at answered
      cases answered.2
      intro error same
      cases same
      exact contains.declared .timeoutError rfl rfl
  | failed failure =>
      simp only [World.answer, Option.ite_none_right_eq_some] at answered
      cases answered.2
      intro error same
      cases same
      exact contains.raises operation failure world admitted
  | connected connected =>
      cases operation <;> cases answered
      exact RaisesOnly.ok _

section Follows

variable {Result Value : Type} {start : Option Phase}
variable {ends : Raises Result → Option Phase → Prop}

theorem Contains.await_follows {operation : Operation} (simple : operation.isSimple = true)
    (hasSession : operation.isTimed = true → start ≠ none)
    {resume : Raises operation.Reply → Async Result}
    (follows : ∀ reply, RaisesOnly allowed reply →
      contains.viewpoint.Follows (resume reply) start ends) :
    contains.viewpoint.Follows (.await operation resume) start ends := by
  apply Viewpoint.Follows.await
  · intro world
    cases operation <;> exact ⟨rfl, id⟩
  · intro choice world reply after sameView sound answered
    rcases Environment.restrict_answer.mp answered with ⟨admitted, enabled⟩
    have unchanged := (World.answer_cases (Operation.isSimple_ne simple).1 enabled).1
    subst unchanged
    have injected (isTimed : operation.isTimed = true) : Injected allowed after.session := by
      apply sound
      by_contra noSession
      apply hasSession isTimed
      rw [← sameView]
      exact if_neg noSession
    exact ⟨sameView, sound, follows reply
      (contains.answer_raises simple injected admitted enabled)⟩

/-- The wait for a response, in this phase of a session. -/
theorem Contains.getResponse_follows {phase : Phase}
    {resume : Raises ResponseItem → Async Result}
    (fails : ∀ error, allowed error →
      contains.viewpoint.Follows (resume (.error error)) (some phase) ends)
    (raises : ∀ error, allowed error.val →
      contains.viewpoint.Follows (resume (.ok (.exception error))) (some phase) ends)
    (receives : ∀ frame, taken phase frame →
      contains.viewpoint.Follows (resume (.ok (.message frame))) (some phase) ends) :
    contains.viewpoint.Follows (.await .getResponse resume) (some phase) ends := by
  apply Viewpoint.Follows.await
  · exact fun world => ⟨rfl, id⟩
  · intro choice world reply after sameView sound answered
    rcases Environment.restrict_answer.mp answered with ⟨admitted, enabled⟩
    rcases World.phase_eq_some.mp sameView with ⟨session, samePhase⟩
    have injected := sound session
    cases choice with
    | completed =>
        simp only [eventLoop, World.answer, World.complete] at enabled
        split at enabled
        · cases enabled
        · next item rest queue =>
            have keeps : Injected allowed { world.session with responseQueue := rest } := by
              constructor
              · exact injected.1
              · intro error member
                apply injected.2
                rw [queue]
                exact List.mem_cons_of_mem _ member
            cases item with
            | message frame =>
                cases enabled
                have isTaken := contains.takes frame rest world queue admitted
                rw [samePhase] at isTaken
                exact ⟨sameView, fun _ => keeps, receives frame isTaken⟩
            | exception error =>
                cases enabled
                have isAllowed : allowed error.val := by
                  apply injected.2
                  rw [queue]
                  exact List.mem_cons_self
                exact ⟨sameView, fun _ => keeps, raises error isAllowed⟩
    | timedOut =>
        cases enabled
        exact ⟨sameView, sound, fails .timeoutError (contains.declared .timeoutError rfl rfl)⟩
    | failed error => simp [eventLoop, World.answer, Operation.callsClient] at enabled
    | connected connected => cases enabled

theorem Contains.modify_follows {transform : TiltBleSession → TiltBleSession}
    {rest : Unit → Async Result}
    (samePhase : ∀ session, (transform session).phase = session.phase)
    (injects : ∀ session, Injected allowed session → Injected allowed (transform session))
    (follows : contains.viewpoint.Follows (rest ()) start ends) :
    contains.viewpoint.Follows (TiltBleSession.modify transform >>= rest) start ends := by
  apply Viewpoint.Follows.update start
  · intro world same
    rw [← same]
    change (if world.hasSession then some (transform world.session).phase else none) = _
    rw [samePhase]
    rfl
  · exact fun world sound session => injects world.session (sound session)
  · exact follows

theorem Contains.record_follows {action : Action} {rest : Unit → Async Result}
    (follows : contains.viewpoint.Follows (rest ()) start ends) :
    contains.viewpoint.Follows (TiltBleSession.record action >>= rest) start ends :=
  Viewpoint.Follows.update start (fun _ same => same) (fun _ sound => sound) follows

theorem Contains.await_then {operation : Operation} (simple : operation.isSimple = true)
    (hasSession : operation.isTimed = true → start ≠ none)
    {rest : operation.Reply → Async Result}
    (fails : ∀ error, allowed error → ends (.error error) start)
    (follows : ∀ value, contains.viewpoint.Follows (rest value) start ends) :
    contains.viewpoint.Follows (TiltBleSession.await operation >>= rest) start ends := by
  apply contains.await_follows simple hasSession
  intro reply raises
  cases reply with
  | error error => exact Viewpoint.Follows.done (fails error (raises error rfl))
  | ok value => exact follows value

theorem Contains.ofExcept_then {outcome : Raises Value} {rest : Value → Async Result}
    (raises : RaisesOnly allowed outcome)
    (fails : ∀ error, allowed error → ends (.error error) start)
    (follows : ∀ value, outcome = .ok value → contains.viewpoint.Follows (rest value) start ends) :
    contains.viewpoint.Follows (Coroutine.ofExcept outcome >>= rest) start ends := by
  cases outcome with
  | error error => exact Viewpoint.Follows.done (fails error (raises error rfl))
  | ok value => exact follows value rfl

include contains in
theorem Contains.malformed {outcome : Raises Value}
    (raises : RaisesOnly (·.isMalformed = true) outcome) : RaisesOnly allowed outcome := by
  intro error failed
  have isDeclared := PythonException.isDeclared_of_isMalformed (raises error failed)
  exact contains.declared error isDeclared.1 isDeclared.2

end Follows

/-! ## The session -/

/-- The session stays what it was, and only allowed exceptions are raised. -/
def Settles {Result : Type} (allowed : PythonException → Prop) (start : Option Phase)
    (outcome : Raises Result) (later : Option Phase) : Prop :=
  later = start ∧ RaisesOnly allowed outcome

/-- A message is taken, or an allowed exception is raised. -/
def Replies (allowed : PythonException → Prop) (taken : Phase → Bytes → Prop)
    (phase : Phase) (outcome : Raises Bytes) (later : Option Phase) : Prop :=
  later = some phase ∧ match outcome with
    | .ok frame => taken phase frame
    | .error error => allowed error

theorem Settles.error {Result : Type} {start : Option Phase} {error : PythonException}
    (isAllowed : allowed error) : Settles allowed start (.error error : Raises Result) start :=
  ⟨rfl, .error isAllowed⟩

theorem Settles.ok {Result : Type} {start : Option Phase} (value : Result) :
    Settles allowed start (.ok value) start :=
  ⟨rfl, nofun⟩

namespace TiltBleSession

theorem registerWaiter_injected {session : TiltBleSession} (sequence : Nat)
    (injected : Injected allowed session) : Injected allowed (session.registerWaiter sequence) := by
  constructor
  · intro key error failed
    simp only [registerWaiter] at failed
    split at failed
    · cases failed
    · exact injected.1 key error failed
  · exact injected.2

theorem popWaiter_injected {session : TiltBleSession} (sequence : Nat)
    (injected : Injected allowed session) : Injected allowed (session.popWaiter sequence) := by
  constructor
  · intro key error failed
    simp only [popWaiter] at failed
    split at failed
    · cases failed
    · exact injected.1 key error failed
  · exact injected.2

theorem attemptChunk_follows (chunk : Bytes) (sequence : Nat) (isLast : Bool)
    (phase : Phase) :
    contains.viewpoint.Follows (attemptChunk chunk sequence isLast) (some phase)
      (Settles allowed (some phase)) := by
  rw [attemptChunk]
  apply contains.modify_follows
  · exact fun _ => rfl
  · exact fun _ => registerWaiter_injected sequence
  · apply Viewpoint.Follows.tryFinally
    have popped (outcome : Raises Bool) (raises : RaisesOnly allowed outcome) :
        contains.viewpoint.Follows (modify (popWaiter sequence)) (some phase)
          fun cleaned last => match cleaned with
            | .ok _ => Settles allowed (some phase) outcome last
            | .error error => Settles allowed (some phase) (.error error : Raises Bool) last := by
      apply @Contains.modify_follows _ _ _ contains _ _ _ _ pure
      · exact fun _ => rfl
      · exact fun _ => popWaiter_injected sequence
      · exact Viewpoint.Follows.done ⟨rfl, raises⟩
    have attempted : contains.viewpoint.Follows
        (tryCatch
          (do
            await (.writeGattChar chunk)
            await (.waitAck sequence)
            pure true)
          (fun error =>
            if error = .timeoutError then
              if isLast then
                throw (.tiltBleTimeout
                  ("Timed out waiting for BLE ACK sequence " ++ toString sequence ++ "."))
              else pure false
            else throw error)) (some phase) (Settles allowed (some phase)) := by
      have handled (error : PythonException) (isAllowed : allowed error) :
          contains.viewpoint.Follows
            (if error = .timeoutError then
              if isLast then
                throw (.tiltBleTimeout
                  ("Timed out waiting for BLE ACK sequence " ++ toString sequence ++ "."))
              else pure false
            else throw error) (some phase) (Settles allowed (some phase)) := by
        apply Viewpoint.Follows.ite
        · intro _
          apply Viewpoint.Follows.ite
          · intro _
            exact Viewpoint.Follows.done (.error (contains.declared _ rfl rfl))
          · intro _
            exact Viewpoint.Follows.done (.ok false)
        · intro _
          exact Viewpoint.Follows.done (.error isAllowed)
      apply Viewpoint.Follows.tryCatch
      apply contains.await_then
      · rfl
      · exact nofun
      · exact handled
      · intro _
        apply contains.await_then
        · rfl
        · exact nofun
        · exact handled
        · intro _
          exact Viewpoint.Follows.done (.ok true)
    apply attempted.weaken
    intro outcome later settles
    rw [settles.1]
    exact popped outcome settles.2

theorem sendChunk_follows (chunk : Bytes) (sequence remaining : Nat) (phase : Phase) :
    contains.viewpoint.Follows (sendChunk chunk sequence remaining) (some phase)
      (Settles allowed (some phase)) := by
  induction remaining with
  | zero => exact Viewpoint.Follows.done (.ok ())
  | succ remaining induction =>
      apply Viewpoint.Follows.bind
      apply (attemptChunk_follows contains chunk sequence (remaining == 0) phase).weaken
      intro outcome later settles
      rw [settles.1]
      cases outcome with
      | error error => exact .error (settles.2 error rfl)
      | ok delivered =>
          cases delivered with
          | true => exact Viewpoint.Follows.done (.ok ())
          | false => exact induction

theorem sendChunks_follows (retryChunks : Bool) (chunks : List Bytes) (phase : Phase) :
    contains.viewpoint.Follows (sendChunks retryChunks chunks) (some phase)
      (Settles allowed (some phase)) := by
  induction chunks with
  | nil => exact Viewpoint.Follows.done (.ok ())
  | cons chunk chunks induction =>
      rw [sendChunks]
      apply Viewpoint.Follows.bind
      apply (sendChunk_follows contains chunk _ _ phase).weaken
      intro outcome later settles
      rw [settles.1]
      cases outcome with
      | error error => exact .error (settles.2 error rfl)
      | ok _ =>
          apply contains.record_follows
          apply contains.ofExcept_then (contains.malformed (nextSequence_raises _))
          · exact fun error isAllowed => .error isAllowed
          · intro next advanced
            apply contains.modify_follows
            · exact fun _ => rfl
            · exact fun _ injected => injected
            · exact induction

theorem awaitResponse_follows (phase : Phase) :
    contains.viewpoint.Follows awaitResponse (some phase) (Replies allowed taken phase) := by
  apply Viewpoint.Follows.bind
  apply Viewpoint.Follows.tryCatch
  apply contains.getResponse_follows
  · intro error isAllowed
    apply Viewpoint.Follows.done
    apply Viewpoint.Follows.ite
    · intro _
      exact Viewpoint.Follows.done ⟨rfl, contains.declared _ rfl rfl⟩
    · intro _
      exact Viewpoint.Follows.done ⟨rfl, isAllowed⟩
  · intro error isAllowed
    exact Viewpoint.Follows.done (Viewpoint.Follows.done ⟨rfl, isAllowed⟩)
  · intro frame isTaken
    exact Viewpoint.Follows.done (Viewpoint.Follows.done ⟨rfl, isTaken⟩)

theorem sendFrame_follows (frame : Bytes) (retryChunks : Bool) (phase : Phase) :
    contains.viewpoint.Follows (sendFrame frame retryChunks) (some phase)
      (Replies allowed taken phase) := by
  apply Viewpoint.Follows.inspect
  intro world same
  apply Viewpoint.Follows.ite
  · intro _
    apply contains.ofExcept_then (contains.malformed (chunkForBle_raises _ _))
    · exact fun error isAllowed => ⟨rfl, isAllowed⟩
    · intro chunks cut
      apply Viewpoint.Follows.bind
      apply (sendChunks_follows contains retryChunks chunks phase).weaken
      intro outcome later settles
      rw [settles.1]
      cases outcome with
      | error error => exact ⟨rfl, settles.2 error rfl⟩
      | ok _ => exact awaitResponse_follows contains phase
  · intro _
    exact Viewpoint.Follows.done ⟨rfl, contains.declared _ rfl rfl⟩

end TiltBleSession

/-! ## The handshake and the status read -/

/-- What the codec raises for the messages that are taken. -/
structure Reads (primitives : CryptoPrimitives) (key : PairingKey)
    (allowed : PythonException → Prop) (taken : Phase → Bytes → Prop) : Prop where
  versions : ∀ frame counter, taken ⟨none, counter⟩ frame →
    RaisesOnly allowed (TiltBleSession.selectedProtocol frame)
  selection : ∀ frame selected counter, taken ⟨none, counter⟩ frame →
    RaisesOnly allowed (TiltBleSession.checkSelection frame selected)
  proof : ∀ frame counter, taken ⟨none, counter⟩ frame →
    RaisesOnly allowed (TiltBleSession.verifiedNonce primitives key frame)
  response : ∀ nonce frame messageId counter,
    taken ⟨some nonce, TiltBleSession.counterAfter counter⟩ frame →
    RaisesOnly allowed (decodeApplicationResponse primitives frame key.bytes nonce .getStatus
      messageId (some counter))

namespace TiltBleSession

variable {primitives : CryptoPrimitives} {key : PairingKey}
variable (reads : Reads primitives key allowed taken)

theorem checkedReply_follows {Value Result : Type} {frame : Bytes} {phase : Phase}
    (retryChunks : Bool) {check : Bytes → Raises Value} {rest : Value → Async Result}
    {ends : Raises Result → Option Phase → Prop}
    (checks : ∀ reply, taken phase reply → RaisesOnly allowed (check reply))
    (fails : ∀ error, allowed error → ends (.error error) (some phase))
    (follows : ∀ value, contains.viewpoint.Follows (rest value) (some phase) ends) :
    contains.viewpoint.Follows
      (sendFrame frame retryChunks >>= fun reply =>
        Coroutine.ofExcept (check reply) >>= rest) (some phase) ends := by
  apply Viewpoint.Follows.bind
  apply (sendFrame_follows contains frame retryChunks phase).weaken
  intro outcome later replies
  rw [replies.1]
  cases outcome with
  | error error => exact fails error replies.2
  | ok reply =>
      apply contains.ofExcept_then (checks reply replies.2) fails
      intro value checked
      exact follows value

/-- The handshake ends in an authenticated session, or with an allowed exception. -/
def Handshakes (allowed : PythonException → Prop) (outcome : Raises Unit)
    (later : Option Phase) : Prop :=
  match outcome with
  | .ok _ => ∃ nonce counter, later = some ⟨some nonce, counter⟩
  | .error error => allowed error

theorem sleep_then {Result : Type} {seconds : Rat} {rest : Unit → Async Result}
    {start : Option Phase} {ends : Raises Result → Option Phase → Prop}
    (fails : ∀ error, allowed error → ends (.error error) start)
    (follows : contains.viewpoint.Follows (rest ()) start ends) :
    contains.viewpoint.Follows (await (.sleep seconds) >>= rest) start ends := by
  apply contains.await_then
  · rfl
  · exact nofun
  · exact fails
  · exact fun _ => follows

include reads in
theorem authenticate_follows (counter : Int) :
    contains.viewpoint.Follows (authenticate primitives key) (some ⟨none, counter⟩)
      (Handshakes allowed) := by
  have fails (error : PythonException) (isAllowed : allowed error) :
      Handshakes allowed (.error error) (some ⟨none, counter⟩) := isAllowed
  rw [authenticate]
  apply sleep_then contains fails
  apply contains.ofExcept_then (contains.malformed (encodeCryptoRequest_raises _ _)) fails
  intro versionsRequest _
  apply checkedReply_follows contains true (fun reply => reads.versions reply counter) fails
  intro selected
  apply sleep_then contains fails
  have selectionRaises : RaisesOnly allowed (encodeProtocolSelection selected.toNat) :=
    contains.malformed (encodeProtocolSelection_raises _)
  generalize encodeProtocolSelection (selected.toNat : Int) = encoded at selectionRaises ⊢
  apply contains.ofExcept_then selectionRaises fails
  intro selectionRequest _
  refine checkedReply_follows contains true (fun reply => reads.selection reply selected counter)
    fails ?_
  intro _
  apply sleep_then contains fails
  apply contains.ofExcept_then (contains.malformed (encodeCryptoRequest_raises _ _)) fails
  intro nonceRequest _
  apply checkedReply_follows contains true (fun reply => reads.proof reply counter) fails
  intro nonce
  apply Viewpoint.Follows.update (some ⟨some nonce, counter⟩)
  · intro world same
    rcases World.phase_eq_some.mp same with ⟨session, samePhase⟩
    have sameCounter : world.session.counter = counter := congrArg Phase.counter samePhase
    apply World.phase_eq_some.mpr
    constructor
    · exact session
    · change (⟨some nonce, world.session.counter⟩ : Phase) = _
      rw [sameCounter]
  · exact fun world sound session => sound session
  · apply contains.await_follows
    · rfl
    · exact nofun
    · intro reply raises
      cases reply with
      | error error => exact Viewpoint.Follows.done (raises error rfl)
      | ok _ => exact Viewpoint.Follows.done ⟨nonce, counter, rfl⟩

theorem reported_follows {Result : Type} {note : Raises Result → Action} {body : Async Result}
    {start : Option Phase}
    (follows : contains.viewpoint.Follows body start
      (fun outcome _ => RaisesOnly allowed outcome)) :
    contains.viewpoint.Follows (reported note body) start
      (fun outcome _ => RaisesOnly allowed outcome) := by
  apply Viewpoint.Follows.tryCatch
  apply Viewpoint.Follows.bind
  apply follows.weaken
  intro outcome later raises
  cases outcome with
  | error error =>
      apply contains.record_follows
      exact Viewpoint.Follows.done raises
  | ok value =>
      apply contains.record_follows
      exact Viewpoint.Follows.done (RaisesOnly.ok value)

theorem requireNonce_then {Result : Type} {nonce : Bytes} {counter : Int}
    {rest : Bytes → Async Result} {ends : Raises Result → Option Phase → Prop}
    (follows : contains.viewpoint.Follows (rest nonce) (some ⟨some nonce, counter⟩) ends) :
    contains.viewpoint.Follows (requireNonce >>= rest) (some ⟨some nonce, counter⟩) ends := by
  apply Viewpoint.Follows.inspect
  intro world same
  have isNonce : world.session.nonce = some nonce :=
    congrArg Phase.nonce (World.phase_eq_some.mp same).2
  simp only [Coroutine.bind, isNonce]
  exact follows

theorem takeApplicationIds_then {Result : Type} {nonce : Bytes} {counter : Int}
    {rest : Int × Int → Async Result} {ends : Raises Result → Option Phase → Prop}
    (follows : ∀ messageId, contains.viewpoint.Follows (rest (counter, messageId))
      (some ⟨some nonce, counterAfter counter⟩) ends) :
    contains.viewpoint.Follows (takeApplicationIds >>= rest) (some ⟨some nonce, counter⟩)
      ends := by
  apply Viewpoint.Follows.inspect
  intro world same
  have sameCounter : world.session.counter = counter :=
    congrArg Phase.counter (World.phase_eq_some.mp same).2
  subst sameCounter
  apply Viewpoint.Follows.update (some ⟨some nonce, counterAfter world.session.counter⟩)
  · intro before sameBefore
    rcases World.phase_eq_some.mp sameBefore with ⟨session, samePhase⟩
    have sameNonce : before.session.nonce = some nonce := congrArg Phase.nonce samePhase
    apply World.phase_eq_some.mpr
    constructor
    · exact session
    · change (⟨before.session.nonce, counterAfter world.session.counter⟩ : Phase) = _
      rw [sameNonce]
  · exact fun _ sound => sound
  · exact follows world.session.messageId

include reads in
theorem readStatus_follows (nonce : Bytes) (counter : Int) :
    contains.viewpoint.Follows (readStatus primitives key) (some ⟨some nonce, counter⟩)
      (fun outcome _ => RaisesOnly allowed outcome) := by
  apply reported_follows contains
  apply Viewpoint.Follows.bind
  apply requireNonce_then contains
  apply takeApplicationIds_then contains
  intro messageId
  apply contains.record_follows
  apply contains.ofExcept_then (contains.malformed (encodeReadRequest_raises _ _ _ _ _ _))
  · exact fun _ isAllowed => RaisesOnly.error isAllowed
  · intro frame encoded
    apply Viewpoint.Follows.bind
    apply (sendFrame_follows contains frame true _).weaken
    intro outcome later replies
    rw [replies.1]
    cases outcome with
    | error error => exact RaisesOnly.error replies.2
    | ok reply =>
        have raises := reads.response nonce reply messageId counter replies.2
        apply Viewpoint.Follows.done
        cases decoded : decodeApplicationResponse primitives reply key.bytes nonce .getStatus
            messageId (some counter) with
        | error error =>
            rw [decoded] at raises
            exact RaisesOnly.error (raises error rfl)
        | ok response =>
            exact Viewpoint.Follows.done (contains.malformed (parseStatus_raises response))

end TiltBleSession

/-! ## The call -/

section Call

variable {primitives : CryptoPrimitives} {key : PairingKey} {Result : Type}

/-- Every outcome but an allowed exception is excluded. -/
abbrev Contains.Confines (code : Async Result) (start : Option Phase) : Prop :=
  contains.viewpoint.Follows code start (fun outcome _ => RaisesOnly allowed outcome)

theorem clientCall_follows {operation : Operation} (simple : operation.isSimple = true)
    (isTimed : operation.isTimed = false) (start : Option Phase) :
    contains.viewpoint.Follows (TiltBleSession.await operation) start (Settles allowed start) := by
  apply contains.await_follows simple
  · rw [isTimed]
    exact nofun
  · intro reply raises
    exact Viewpoint.Follows.done ⟨rfl, raises⟩

theorem handledCall_follows {operation : Operation} (simple : operation.isSimple = true)
    (isTimed : operation.isTimed = false) {start : Option Phase}
    {handler : PythonException → Async operation.Reply}
    (handles : ∀ error, contains.viewpoint.Follows (handler error) start
      (Settles allowed start)) :
    contains.viewpoint.Follows
      (tryCatch (TiltBleSession.await operation) fun error =>
        if error.isOrdinary then handler error else throw error) start
      (Settles allowed start) := by
  apply Viewpoint.Follows.tryCatch
  apply (clientCall_follows contains simple isTimed start).weaken
  intro outcome later settles
  rw [settles.1]
  cases outcome with
  | ok value => exact .ok value
  | error error =>
      apply Viewpoint.Follows.ite
      · intro _
        exact handles error
      · intro _
        exact Viewpoint.Follows.done (.error (settles.2 error rfl))

theorem awaitWorker_follows {start : Option Phase}
    {resume : Raises Unit → Async Result} {ends : Raises Result → Option Phase → Prop}
    (follows : contains.viewpoint.Follows (resume (.error .cancelledError)) start ends) :
    contains.viewpoint.Follows (.await .awaitWorker resume) start ends := by
  apply Viewpoint.Follows.await
  · exact fun world => ⟨rfl, id⟩
  · intro choice world reply after sameView sound answered
    have enabled := (Environment.restrict_answer.mp answered).2
    cases choice with
    | completed =>
        cases enabled
        exact ⟨sameView, sound, follows⟩
    | timedOut => cases enabled
    | failed error => simp [eventLoop, World.answer, Operation.callsClient] at enabled
    | connected connected => cases enabled

theorem stop_follows (start : Option Phase) :
    contains.viewpoint.Follows (callPrimitives primitives key).stop start
      (Settles allowed start) := by
  have stopNotify : contains.viewpoint.Follows
      (tryCatch (callPrimitives primitives key).stopNotify fun error =>
        if error.isOrdinary then pure () else throw error) start (Settles allowed start) := by
    apply handledCall_follows contains rfl rfl
    intro _
    exact Viewpoint.Follows.done (.ok ())
  apply Viewpoint.Follows.inspect
  intro world _
  apply Viewpoint.Follows.update start
  · exact fun _ same => same
  · exact fun _ sound => sound
  · apply Viewpoint.Follows.ite
    · intro _
      exact awaitWorker_follows contains stopNotify
    · intro _
      exact stopNotify

theorem isConnected_then {start : Option Phase} {rest : Bool → Async Result}
    {ends : Raises Result → Option Phase → Prop}
    (fails : ∀ error, allowed error → ends (.error error) start)
    (follows : ∀ connected, contains.viewpoint.Follows (rest connected) start ends) :
    contains.viewpoint.Follows ((callPrimitives primitives key).isConnected >>= rest) start
      ends := by
  apply contains.await_then
  · rfl
  · exact nofun
  · exact fails
  · exact follows

theorem unlessConnected_follows {error : PythonException} (isAllowed : allowed error)
    (start : Option Phase) :
    contains.viewpoint.Follows
      (do
        let connected ← (callPrimitives primitives key).isConnected
        if connected then throw error) start (Settles allowed start) := by
  apply isConnected_then contains
  · exact fun _ isAllowed => .error isAllowed
  · intro connected
    apply Viewpoint.Follows.ite
    · intro _
      exact Viewpoint.Follows.done (.error isAllowed)
    · intro _
      exact Viewpoint.Follows.done (.ok ())

theorem closeBleClient_follows (session : Bool) (start : Option Phase) :
    contains.viewpoint.Follows ((callPrimitives primitives key).closeBleClient session) start
      (Settles allowed start) := by
  have disconnect : contains.viewpoint.Follows
      (tryCatch (callPrimitives primitives key).disconnect (fun error =>
        if error.isOrdinary then do
          let connected ← (callPrimitives primitives key).isConnected
          if connected then throw (.tiltBleCleanupError "Tilt BLE client disconnect failed.")
        else throw error)) start (Settles allowed start) := by
    apply handledCall_follows contains rfl rfl
    intro _
    exact unlessConnected_follows contains (contains.declared _ rfl rfl) start
  have stopped : contains.viewpoint.Follows
      (if session then (callPrimitives primitives key).stop else pure ()) start
      (Settles allowed start) := by
    apply Viewpoint.Follows.ite
    · intro _
      exact stop_follows contains start
    · intro _
      exact Viewpoint.Follows.done (.ok ())
  apply Viewpoint.Follows.bind
  apply Viewpoint.Follows.tryFinally
  apply stopped.weaken
  intro outcome later settles
  rw [settles.1]
  apply disconnect.weaken
  intro cleaned last cleans
  rw [cleans.1]
  cases cleaned with
  | error error => exact .error (cleans.2 error rfl)
  | ok _ =>
      cases outcome with
      | error error => exact .error (settles.2 error rfl)
      | ok _ =>
          exact unlessConnected_follows contains (contains.declared _ rfl rfl) start

theorem initial_injected : Injected allowed TiltBleSession.initial := by
  constructor
  · intro sequence error failed
    cases failed
  · intro error queued
    cases queued

/-- From the creation of the session on. -/
theorem newSession_follows (reads : Reads primitives key allowed taken)
    (start : Option Phase) :
    contains.Confines
      (do
        (callPrimitives primitives key).createSession
        (callPrimitives primitives key).start
        (callPrimitives primitives key).authenticate
        TiltBleSession.readStatus primitives key) start := by
  apply Viewpoint.Follows.update (some TiltBleSession.initial.phase)
  · exact fun _ _ => rfl
  · exact fun _ _ _ => initial_injected
  · apply Viewpoint.Follows.update (some TiltBleSession.initial.phase)
    · exact fun _ same => same
    · exact fun _ sound => sound
    · apply Viewpoint.Follows.bind
      apply Viewpoint.Follows.done
      apply Viewpoint.Follows.bind
      apply contains.await_then
      · rfl
      · exact nofun
      · exact fun _ isAllowed => RaisesOnly.error isAllowed
      · intro _
        apply Viewpoint.Follows.update (some TiltBleSession.initial.phase)
        · exact fun _ same => same
        · exact fun _ sound => sound
        · apply Viewpoint.Follows.done
          apply Viewpoint.Follows.bind
          apply (TiltBleSession.authenticate_follows contains reads _).weaken
          intro outcome later handshakes
          cases outcome with
          | error error => exact RaisesOnly.error handshakes
          | ok _ =>
              rcases handshakes with ⟨nonce, counter, isNonce⟩
              rw [isNonce]
              exact TiltBleSession.readStatus_follows contains reads nonce counter

/-- The body of a call that reads the status. -/
theorem sessionBody_follows (reads : Reads primitives key allowed taken) (shadeId : String)
    (start : Option Phase) :
    contains.Confines ((callPrimitives primitives key).sessionBody shadeId
      (TiltBleSession.readStatus primitives key)) start := by
  have fails (error : PythonException) (isAllowed : allowed error) :
      RaisesOnly allowed (.error error : Raises ShadeStatus) := .error isAllowed
  have connected : contains.Confines
      (do
        let connected ← (callPrimitives primitives key).isConnected
        if connected = false then
          throw (.tiltBleError ("Unable to connect to configured shade " ++ shadeId ++ "."))
        (callPrimitives primitives key).createSession
        (callPrimitives primitives key).start
        (callPrimitives primitives key).authenticate
        TiltBleSession.readStatus primitives key) start := by
    apply isConnected_then contains fails
    intro connected
    apply Viewpoint.Follows.ite
    · intro _
      exact Viewpoint.Follows.done (.error (contains.declared _ rfl rfl))
    · intro _
      exact newSession_follows contains reads start
  apply isConnected_then contains fails
  intro isConnected
  apply Viewpoint.Follows.ite
  · intro _
    apply contains.await_then
    · rfl
    · exact nofun
    · exact fails
    · exact fun _ => connected
  · intro _
    exact connected

/-- From any world, also one with the session of an earlier call, the task fails
only with an allowed exception. -/
def Contains.Tolerates (code : Async Result) : Prop :=
  ∀ world, code.Ensures contains.viewpoint.environment contains.viewpoint.rely (fun _ => True)
    (fun outcome _ => RaisesOnly allowed outcome) world

theorem await_tolerates {operation : Operation} (simple : operation.isSimple = true)
    (isTimed : operation.isTimed = false) {rest : operation.Reply → Async Result}
    (tolerates : ∀ value, contains.Tolerates (rest value)) :
    contains.Tolerates (TiltBleSession.await operation >>= rest) := by
  intro world later _
  constructor
  · trivial
  · intro choice reply after answered
    rcases Environment.restrict_answer.mp answered with ⟨admitted, enabled⟩
    have injected (timed : operation.isTimed = true) : Injected allowed later.session := by
      rw [isTimed] at timed
      cases timed
    have raises := contains.answer_raises simple injected admitted enabled
    cases reply with
    | error error =>
        intro last _
        exact ⟨trivial, RaisesOnly.error (raises error rfl)⟩
    | ok value => exact tolerates value after

theorem forgetSession_tolerates {code : Async Result} (confines : contains.Confines code none) :
    contains.Tolerates ((callPrimitives primitives key).forgetSession >>= fun _ => code) := by
  intro world
  apply (confines { world with hasSession := false } rfl nofun).weaken
  intro outcome later ends
  exact ends.2

theorem releaseBleLock_tolerates {code : Async Result} (tolerates : contains.Tolerates code) :
    contains.Tolerates
      (Foundation.tryFinally code (callPrimitives primitives key).releaseBleLock) := by
  intro world
  apply Coroutine.Ensures.tryFinally
  apply (tolerates world).weaken
  intro outcome later raises last _
  refine ⟨trivial, ?_⟩
  cases outcome with
  | ok value => exact RaisesOnly.ok _
  | error error => exact raises

theorem runSession_tolerates (client : TiltShadeClient)
    (reads : Reads primitives client.pairingKey allowed taken) :
    contains.Tolerates (client.runSession primitives
      (TiltBleSession.readStatus primitives client.pairingKey)) := by
  apply await_tolerates contains
  · rfl
  · rfl
  · intro _
    apply releaseBleLock_tolerates contains
    apply await_tolerates contains
    · rfl
    · rfl
    · intro _
      apply forgetSession_tolerates contains
      apply Viewpoint.Follows.tryFinally
      apply (sessionBody_follows contains reads client.shadeId none).weaken
      intro outcome later raises
      apply Viewpoint.Follows.inspect
      intro world _
      apply (closeBleClient_follows contains world.hasSession later).weaken
      intro cleaned last cleans
      cases cleaned with
      | ok _ => exact raises
      | error error => exact RaisesOnly.error (cleans.2 error rfl)

theorem readStatus_tolerates (client : TiltShadeClient)
    (reads : Reads primitives client.pairingKey allowed taken) :
    contains.Tolerates (client.readStatus primitives) := by
  intro world
  apply Coroutine.Ensures.tryCatch
  apply (runSession_tolerates contains client reads world).weaken
  intro outcome later raises
  cases outcome with
  | ok status => exact RaisesOnly.ok _
  | error error =>
      have retried : contains.Tolerates
          (do
            TiltBleSession.await (.sleep statusReadRetryDelaySeconds)
            client.runSession primitives
              (TiltBleSession.readStatus primitives client.pairingKey)) := by
        apply await_tolerates contains
        · rfl
        · rfl
        · exact fun _ => runSession_tolerates contains client reads
      dsimp only
      split
      · exact retried later
      · intro last _
        exact ⟨trivial, RaisesOnly.error (raises error rfl)⟩

/-- Adequacy: a run of admitted steps fails only with an allowed exception. -/
theorem Contains.Tolerates.reached {contains : Contains admission allowed taken}
    {code : Async Result} (tolerates : contains.Tolerates code) {world last : World}
    {events : List (Event Background Choice)} {error : PythonException}
    (every : eventLoop.EveryStep admission (eventLoop.settle code world) events)
    (finished : eventLoop.run (eventLoop.settle code world) events =
      some ⟨.done (.error error), last⟩) : allowed error := by
  have interferes (action : Background) (before after : World)
      (moved : contains.viewpoint.environment.background action before = some after) :
      contains.viewpoint.rely.Allows before after :=
    ⟨contains.viewpoint.sameView action before after moved,
      contains.viewpoint.keepsSound action before after moved⟩
  have restricted : contains.viewpoint.environment.run
      (contains.viewpoint.environment.settle code world) events =
        some ⟨.done (.error error), last⟩ := by
    change (eventLoop.restrict admission).run ((eventLoop.restrict admission).settle code world)
      events = _
    rw [Environment.restrict_settle, every.restrict_run]
    exact finished
  exact ((tolerates world).run interferes restricted).post_holds error rfl

end Call

end Containment

end SmartblindsBle
