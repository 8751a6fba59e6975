import SmartblindsBle.Tilt.Conversation

/-! # The counters of a session

Every call takes one counter and one message id, whatever becomes of it. The
counter is part of the initial AES-CTR block, and it wraps.
-/

namespace SmartblindsBle

open Foundation

/-- The counter and the message id of the request with this index. -/
def counterAt (index : Nat) : Int := index % 0x7FFF + 1
def messageIdAt (index : Nat) : Int := index % 15 + 1

@[simp] theorem counterAfter_counterAt (index : Nat) :
    TiltBleSession.counterAfter (counterAt index) = counterAt (index + 1) := by
  unfold TiltBleSession.counterAfter counterAt
  split <;> omega

@[simp] theorem messageIdAfter_messageIdAt (index : Nat) :
    TiltBleSession.messageIdAfter (messageIdAt index) = messageIdAt (index + 1) := by
  unfold TiltBleSession.messageIdAfter messageIdAt
  split <;> omega

theorem counterAt_inRange (index : Nat) :
    1 ≤ counterAt index ∧ counterAt index ≤ maxCounter := by
  unfold counterAt maxCounter
  omega

theorem messageIdAt_inRange (index : Nat) :
    0 ≤ messageIdAt index ∧ messageIdAt index ≤ 0x0F := by
  unfold messageIdAt
  omega

theorem counterAt_eq_iff {first second : Nat} :
    counterAt first = counterAt second ↔ first % 0x7FFF = second % 0x7FFF := by
  unfold counterAt
  omega

/-! ## The requests of a conversation -/

/-- A request that was encoded: its counter, its message id and its frame. -/
structure ApplicationRequest where
  counter : Int
  messageId : Int
  frame : Raises Bytes
  deriving DecidableEq

def Action.applicationRequest? : Action → Option ApplicationRequest
  | .requested counter messageId frame => some ⟨counter, messageId, frame⟩
  | _ => none

def applicationRequests (history : List Action) : List ApplicationRequest :=
  history.filterMap Action.applicationRequest?

@[simp] theorem applicationRequests_append (before after : List Action) :
    applicationRequests (before ++ after) =
      applicationRequests before ++ applicationRequests after :=
  List.filterMap_append

section Requests

variable (primitives : CryptoPrimitives) (key : PairingKey) (nonce : Bytes)

/-- The frame that a call sends, if it sends one. -/
def SessionRequest.encode (counter messageId : Int) : SessionRequest → Option (Raises Bytes)
  | .readStatus => some (encodeReadRequest primitives ShadeCommand.getStatus.toInt key.bytes
      nonce counter messageId)
  | .setPosition positionPercent => some (encodePositionRequest primitives positionPercent
      key.bytes nonce counter messageId TiltBleSession.defaultSpeed)
  | .pause _ => none

/-- The requests of a conversation, when `index` requests came before. -/
def requestsFrom : (index : Nat) → List SessionRequest → List ApplicationRequest
  | _, [] => []
  | index, request :: requests =>
      match request.encode primitives key nonce (counterAt index) (messageIdAt index) with
      | none => requestsFrom index requests
      | some frame =>
          ⟨counterAt index, messageIdAt index, frame⟩ :: requestsFrom (index + 1) requests

variable {primitives key nonce}

theorem SessionRequest.encode_eq_ok {call : SessionRequest} {counter messageId : Int}
    {frame : Bytes} (encoded : call.encode primitives key nonce counter messageId =
      some (.ok frame)) :
    ∃ command payload, encodeApplicationRequest primitives command payload key.bytes nonce
      counter messageId = .ok frame := by
  cases call with
  | readStatus => exact ⟨_, [], encodeReadRequest_eq_ok (Option.some.inj encoded)⟩
  | setPosition positionPercent =>
      rcases encodePositionRequest_eq_ok (Option.some.inj encoded) with
        ⟨percent, speed, _, _, _, _, requested⟩
      exact ⟨_, _, requested⟩
  | pause seconds => cases encoded

theorem requestsFrom_cons (index : Nat) (request : SessionRequest)
    (requests : List SessionRequest) :
    requestsFrom primitives key nonce index (request :: requests) =
      requestsFrom primitives key nonce index [request] ++
        requestsFrom primitives key nonce
          (index + (requestsFrom primitives key nonce index [request]).length) requests := by
  cases encoded : request.encode primitives key nonce (counterAt index) (messageIdAt index) with
  | none => simp [requestsFrom, encoded]
  | some frame => simp [requestsFrom, encoded]

theorem requestsFrom_getElem {index position : Nat} {requests : List SessionRequest}
    {request : ApplicationRequest}
    (found : (requestsFrom primitives key nonce index requests)[position]? = some request) :
    request.counter = counterAt (index + position) ∧
      request.messageId = messageIdAt (index + position) ∧
      ∀ frame, request.frame = .ok frame → ∃ command payload,
        encodeApplicationRequest primitives command payload key.bytes nonce request.counter
          request.messageId = .ok frame := by
  induction requests generalizing index position with
  | nil => cases found
  | cons call requests induction =>
      unfold requestsFrom at found
      split at found
      · exact induction found
      · next frame encoded =>
          cases position with
          | zero =>
              cases found
              refine ⟨rfl, rfl, ?_⟩
              rintro bytes rfl
              exact SessionRequest.encode_eq_ok encoded
          | succ position =>
              have rest := induction found
              rwa [Nat.add_assoc, Nat.add_comm 1 position] at rest

end Requests

/-! ## Runs of a conversation -/

/-- The session is authenticated, and `index` requests have been numbered. -/
structure Numbered (nonce : Bytes) (index : Nat) (view : CallerView) : Prop where
  nonce : view.nonce = some nonce
  counter : view.counter = counterAt index
  messageId : view.messageId = messageIdAt index

/-- Sending a frame neither numbers a request nor encodes one, and ends no call. -/
structure SameNumbering (start later : CallerView) : Prop where
  requests : applicationRequests later.history = applicationRequests start.history
  outcomes : callOutcomes later.history = callOutcomes start.history
  nonce : later.nonce = start.nonce
  counter : later.counter = start.counter
  messageId : later.messageId = start.messageId

section Runs

variable {network : Network} {primitives : CryptoPrimitives} {key : PairingKey} {nonce : Bytes}
variable {index : Nat} {start later : CallerView}

theorem Sending.sameNumbering {frame : Bytes} {attempts : Nat}
    (sends : Sending frame attempts start later) : SameNumbering start later := by
  have append : ∀ {view : CallerView} {action : Action}, SameNumbering start view →
      action.applicationRequest? = none → action.isCallOutcome = false →
      SameNumbering start (view.record action) := by
    intro view action same notRequest notOutcome
    refine ⟨?_, ?_, same.nonce, same.counter, same.messageId⟩
    · have none : applicationRequests [action] = [] := by simp [applicationRequests, notRequest]
      change applicationRequests (view.history ++ [action]) = _
      rw [applicationRequests_append, none, List.append_nil, same.requests]
    · have none : callOutcomes [action] = [] := by simp [callOutcomes, notOutcome]
      change callOutcomes (view.history ++ [action]) = _
      rw [callOutcomes_append, none, List.append_nil, same.outcomes]
  refine sends.preserves (SameNumbering start) ⟨rfl, rfl, rfl, rfl, rfl⟩ ?_ ?_ ?_
  · exact fun copies _ same => append same rfl rfl
  · intro view same
    have recorded : SameNumbering start (view.record (.confirmed view.txSequence)) :=
      append same rfl rfl
    exact ⟨recorded.requests, recorded.outcomes, recorded.nonce, recorded.counter,
      recorded.messageId⟩
  · exact fun view reply same => append same rfl rfl

theorem Numbered.same (numbered : Numbered nonce index start) (same : SameNumbering start later) :
    Numbered nonce index later :=
  ⟨same.nonce.trans numbered.nonce, same.counter.trans numbered.counter,
    same.messageId.trans numbered.messageId⟩

theorem Numbered.request (numbered : Numbered nonce index start) (frame : Raises Bytes) :
    Numbered nonce (index + 1) (start.request frame) ∧
      applicationRequests (start.request frame).history =
        applicationRequests start.history ++ [⟨counterAt index, messageIdAt index, frame⟩] := by
  refine ⟨⟨numbered.nonce, ?_, ?_⟩, ?_⟩
  · change TiltBleSession.counterAfter start.counter = _
    rw [numbered.counter, counterAfter_counterAt]
  · change TiltBleSession.messageIdAfter start.messageId = _
    rw [numbered.messageId, messageIdAfter_messageIdAt]
  · change applicationRequests (start.history ++ [.requested start.counter start.messageId frame])
      = _
    rw [applicationRequests_append, numbered.counter, numbered.messageId]
    rfl

variable {Result : Type} {call : SessionCall primitives key Result}

/-- The request of this call is the last one in the history. -/
def Requested (call : SessionCall primitives key Result) (nonce : Bytes) (index : Nat)
    (start later : CallerView) : Prop :=
  Numbered nonce (index + 1) later ∧
    applicationRequests later.history = applicationRequests start.history ++
      [⟨counterAt index, messageIdAt index,
        call.encode nonce (counterAt index) (messageIdAt index)⟩]

theorem Numbered.requested {other : Bytes} {frame : Raises Bytes}
    (numbered : Numbered nonce index start) (isNonce : start.nonce = some other)
    (encoded : call.encode other start.counter start.messageId = frame)
    (same : SameNumbering (start.request frame) later) :
    Requested call nonce index start later := by
  cases numbered.nonce.symm.trans isNonce
  rw [numbered.counter, numbered.messageId] at encoded
  subst encoded
  have requested := numbered.request (call.encode nonce (counterAt index) (messageIdAt index))
  exact ⟨requested.1.same same, same.requests.trans requested.2⟩

theorem Numbered.exchanging (numbered : Numbered nonce index start)
    (exchanging : Exchanging call start later) :
    later = start ∨ Requested call nonce index start later := by
  cases exchanging with
  | idle => exact .inl rfl
  | unencoded isNonce encoded =>
      exact .inr (numbered.requested isNonce encoded ⟨rfl, rfl, rfl, rfl, rfl⟩)
  | sending isNonce encoded sends =>
      exact .inr (numbered.requested isNonce encoded sends.sameNumbering)

theorem Numbered.exchanged {response : Raises ApplicationResponse}
    (numbered : Numbered nonce index start)
    (exchanged : Exchanged network call start response later) :
    Requested call nonce index start later := by
  cases exchanged with
  | unauthenticated isNone isOrdinary => cases numbered.nonce.symm.trans isNone
  | unencoded isNonce encoded => exact numbered.requested isNonce encoded ⟨rfl, rfl, rfl, rfl, rfl⟩
  | sent isNonce encoded sent =>
      exact numbered.requested isNonce encoded sent.sending.sameNumbering

theorem Numbered.noted (numbered : Numbered nonce index start) {action : Action}
    (isOutcome : action.isCallOutcome = true) :
    Numbered nonce index (start.record action) ∧
      applicationRequests (start.record action).history = applicationRequests start.history := by
  refine ⟨⟨numbered.nonce, numbered.counter, numbered.messageId⟩, ?_⟩
  change applicationRequests (start.history ++ [action]) = _
  rw [applicationRequests_append]
  cases action <;> first | exact List.append_nil _ | cases isOutcome

theorem Numbered.callEnds {outcome : Raises Result} (numbered : Numbered nonce index start)
    (ended : CallEnds network call start outcome later) :
    Requested call nonce index start later := by
  rcases ended with ⟨response, exchanged, exchange, _, rfl⟩
  have requested := numbered.exchanged exchange
  have noted := requested.1.noted (call.isCallOutcome outcome)
  exact ⟨noted.1, noted.2.trans requested.2⟩

theorem Numbered.calling (numbered : Numbered nonce index start)
    (calling : Calling network call start later) :
    applicationRequests later.history = applicationRequests start.history ∨
      Requested call nonce index start later := by
  rcases calling with exchanging | ⟨outcome, ended⟩
  · rcases numbered.exchanging exchanging with rfl | requested
    · exact .inl rfl
    · exact .inr requested
  · exact .inr (numbered.callEnds ended)

/-- One call of a conversation. -/
theorem perform_requests (numbered : Numbered nonce index start) (request : SessionRequest) :
    Behaves network (tryCatch (TiltBleSession.perform primitives key request) fun _ => pure ())
      start
      (fun later => applicationRequests later.history <+:
        applicationRequests start.history ++ requestsFrom primitives key nonce index [request])
      (fun outcome later => outcome = .ok () ∧
        applicationRequests later.history = applicationRequests start.history ++
          requestsFrom primitives key nonce index [request] ∧
        Numbered nonce (index + (requestsFrom primitives key nonce index [request]).length)
          later) := by
  apply Behaves.tryCatch
  have during : ∀ {Result : Type} {call : SessionCall primitives key Result} {later : CallerView},
      Calling network call start later → applicationRequests later.history <+:
        applicationRequests start.history ++ [⟨counterAt index, messageIdAt index,
          call.encode nonce (counterAt index) (messageIdAt index)⟩] := by
    intro Result call later calling
    rcases numbered.calling calling with same | requested
    · exact same ▸ List.prefix_append _ _
    · exact requested.2 ▸ List.prefix_refl _
  cases request with
  | readStatus =>
      refine Behaves.bind ((TiltBleSession.readStatus_behaves start).mono
        (fun later => during) ?_)
      rintro outcome later ended
      have requested := numbered.callEnds ended
      cases outcome with
      | error error =>
          exact Behaves.done (during ended.calling) ⟨rfl, requested.2, requested.1⟩
      | ok status => exact Behaves.done (during ended.calling) ⟨rfl, requested.2, requested.1⟩
  | setPosition positionPercent =>
      refine (TiltBleSession.setPosition_behaves positionPercent start).mono
        (fun later => during) ?_
      rintro outcome later ended
      have requested := numbered.callEnds ended
      cases outcome with
      | error error =>
          exact Behaves.done (during ended.calling) ⟨rfl, requested.2, requested.1⟩
      | ok _ => exact ⟨rfl, requested.2, requested.1⟩
  | pause seconds =>
      have nothing : applicationRequests start.history =
          applicationRequests start.history ++ [] := (List.append_nil _).symm
      exact TiltBleSession.sleep_behaves (nothing ▸ List.prefix_refl _) ⟨rfl, nothing, numbered⟩

theorem performAll_requests (numbered : Numbered nonce index start)
    (requests : List SessionRequest) :
    Behaves network (TiltBleSession.performAll primitives key requests) start
      (fun later => applicationRequests later.history <+:
        applicationRequests start.history ++ requestsFrom primitives key nonce index requests)
      (fun _ later => applicationRequests later.history =
        applicationRequests start.history ++
          requestsFrom primitives key nonce index requests) := by
  induction requests generalizing start index with
  | nil =>
      have nothing : applicationRequests start.history =
          applicationRequests start.history ++ [] := (List.append_nil _).symm
      exact Behaves.done (nothing ▸ List.prefix_refl _) nothing
  | cons request requests induction =>
      rw [requestsFrom_cons, ← List.append_assoc]
      refine Behaves.bind ((perform_requests numbered request).mono
        (fun later earlier => earlier.trans (List.prefix_append _ _)) ?_)
      rintro outcome later ⟨rfl, performed, next⟩
      rw [← performed]
      exact induction next

/-! ## Authenticated sessions -/

/-- The handshake has succeeded, and no request was made yet. -/
structure World.IsAuthenticated (nonce : Bytes) (world : World) : Prop where
  numbered : Numbered nonce 0 world.callerView
  noRequests : applicationRequests world.callerView.history = []
  noOutcomes : callOutcomes world.callerView.history = []

theorem SameNumbering.trans {middle : CallerView} (earlier : SameNumbering start middle)
    (later' : SameNumbering middle later) : SameNumbering start later :=
  ⟨later'.requests.trans earlier.requests, later'.outcomes.trans earlier.outcomes,
    later'.nonce.trans earlier.nonce,
    later'.counter.trans earlier.counter, later'.messageId.trans earlier.messageId⟩

theorem Authenticated.isNumbered
    (ended : Authenticated network primitives key start (.ok ()) later)
    (counter : start.counter = 1) (messageId : start.messageId = 1) :
    ∃ nonce, Numbered nonce 0 later ∧
      applicationRequests later.history = applicationRequests start.history ∧
      callOutcomes later.history = callOutcomes start.history := by
  cases ended with
  | @verified selected nonce first second third versions selection proof =>
      have same := (versions.sending.sameNumbering.trans
        selection.sending.sameNumbering).trans proof.sending.sameNumbering
      exact ⟨nonce, ⟨rfl, same.counter.trans counter, same.messageId.trans messageId⟩,
        same.requests, same.outcomes⟩

/-- The handshake leaves an authenticated session. -/
theorem authenticate_isAuthenticated {events : List SessionEvent} {state : World}
    (finished : eventLoop.run
      (eventLoop.settle (TiltBleSession.authenticate primitives key) World.started) events =
      some ⟨.done (.ok ()), state⟩) : ∃ nonce, state.IsAuthenticated nonce := by
  have ended := ((TiltBleSession.authenticate_behaves World.started.callerView).reached
    finished).2 _ rfl
  rcases ended.isNumbered rfl rfl with ⟨nonce, numbered, requests, outcomes⟩
  exact ⟨nonce, numbered, requests, outcomes⟩

end Runs

/-! ## Shared blocks -/

/-- The initial AES-CTR block of a request. -/
def initialBlock (nonce frame : Bytes) : Bytes := requestBlock nonce (frame.take 2)

/-- The frame of the request with this index: what the encoder returns for the session's key
and nonce, and what is encrypted under its initial block. -/
structure EncryptedRequest (primitives : CryptoPrimitives) (key : PairingKey) (nonce : Bytes)
    (index : Nat) (command : Int) (payload frame : Bytes) : Prop where
  encoded : encodeApplicationRequest primitives command payload key.bytes nonce (counterAt index)
    (messageIdAt index) = .ok frame
  ciphertext : frame.drop 2 = aesCtr primitives
    (withChecksum (frame.take 2)
      ([UInt8.ofNat (messageIdAt index).toNat, UInt8.ofNat command.toNat] ++ payload))
    key.bytes (initialBlock nonce frame)

theorem EncryptedRequest.of_encoded {primitives : CryptoPrimitives} {key : PairingKey}
    {nonce : Bytes} {index : Nat} {command : Int} {payload frame : Bytes}
    (encoded : encodeApplicationRequest primitives command payload key.bytes nonce
      (counterAt index) (messageIdAt index) = .ok frame) :
    EncryptedRequest primitives key nonce index command payload frame :=
  ⟨encoded, encodeApplicationRequest_ciphertext encoded⟩

theorem EncryptedRequest.initialBlock_eq {primitives : CryptoPrimitives} {key : PairingKey}
    {nonce : Bytes} {index : Nat} {command : Int} {payload frame : Bytes}
    (encrypted : EncryptedRequest primitives key nonce index command payload frame) :
    initialBlock nonce frame = requestBlock nonce (toBigEndian 2 (counterAt index).toNat) := by
  rw [initialBlock, (encodeApplicationRequest_length encrypted.encoded).2]

theorem requestBlock_counter_iff {nonce : Bytes} {first second : Int}
    (firstInRange : 1 ≤ first ∧ first ≤ maxCounter)
    (secondInRange : 1 ≤ second ∧ second ≤ maxCounter) :
    requestBlock nonce (toBigEndian 2 first.toNat) =
      requestBlock nonce (toBigEndian 2 second.toNat) ↔ first = second := by
  constructor
  · intro same
    have headers : toBigEndian 2 first.toNat = toBigEndian 2 second.toNat := by
      simpa [requestBlock] using same
    have values := congrArg ofBigEndian headers
    rw [ofBigEndian_counter firstInRange, ofBigEndian_counter secondInRange] at values
    omega
  · rintro rfl
    rfl

/-- The requests of a session are encrypted under its one nonce and key, and two of them
share their initial block exactly when they are a multiple of 0x7FFF apart. -/
theorem requests_shareBlock_iff (primitives : CryptoPrimitives) (key : PairingKey)
    (nonce : Bytes) (requests : List SessionRequest) (world : World)
    (authenticated : world.IsAuthenticated nonce) (events : List SessionEvent)
    (task : Task World Operation Operation.Reply PythonException Unit)
    (reached : eventLoop.run
      (eventLoop.settle (TiltBleSession.performAll primitives key requests) world) events =
      some task)
    (first second : Nat) (firstCounter secondCounter firstId secondId : Int)
    (firstFrame secondFrame : Bytes)
    (isFirst : (applicationRequests task.state.callerView.history)[first]? =
      some ⟨firstCounter, firstId, .ok firstFrame⟩)
    (isSecond : (applicationRequests task.state.callerView.history)[second]? =
      some ⟨secondCounter, secondId, .ok secondFrame⟩) :
    (∃ command payload,
      EncryptedRequest primitives key nonce first command payload firstFrame) ∧
    (∃ command payload,
      EncryptedRequest primitives key nonce second command payload secondFrame) ∧
    (initialBlock nonce firstFrame = initialBlock nonce secondFrame ↔
      first % 0x7FFF = second % 0x7FFF) := by
  rcases ((performAll_requests authenticated.numbered requests).reached reached).1 with
    ⟨rest, whole⟩
  rw [authenticated.noRequests, List.nil_append] at whole
  have encrypted : ∀ {index : Nat} {counter messageId : Int} {frame : Bytes},
      (applicationRequests task.state.callerView.history)[index]? =
        some ⟨counter, messageId, .ok frame⟩ →
      ∃ command payload, EncryptedRequest primitives key nonce index command payload frame := by
    intro index counter messageId frame found
    rw [← List.getElem?_append_left (List.getElem?_eq_some_iff.mp found).1, whole] at found
    have planned := requestsFrom_getElem found
    rw [Nat.zero_add] at planned
    rcases planned with ⟨rfl, rfl, encodes⟩
    rcases encodes frame rfl with ⟨command, payload, encoded⟩
    exact ⟨command, payload, .of_encoded encoded⟩
  rcases encrypted isFirst with ⟨firstCommand, firstPayload, firstEncrypted⟩
  rcases encrypted isSecond with ⟨secondCommand, secondPayload, secondEncrypted⟩
  refine ⟨⟨_, _, firstEncrypted⟩, ⟨_, _, secondEncrypted⟩, ?_⟩
  rw [firstEncrypted.initialBlock_eq, secondEncrypted.initialBlock_eq,
    requestBlock_counter_iff (counterAt_inRange first) (counterAt_inRange second),
    counterAt_eq_iff]

/-! Two status reads, of which the first is never acknowledged. -/

/-- A session after its handshake. -/
def World.authenticated (nonce : Bytes) : World :=
  { World.started with session := { World.started.session with nonce := some nonce } }

theorem World.authenticated_isAuthenticated (nonce : Bytes) :
    (World.authenticated nonce).IsAuthenticated nonce := ⟨⟨rfl, rfl, rfl⟩, rfl, rfl⟩

theorem requests_shareBlock_iff_unacknowledged : ∃ events task firstFrame secondFrame,
    eventLoop.run (eventLoop.settle (TiltBleSession.performAll .constant .zero
        [.readStatus, .readStatus]) (World.authenticated zeroNonce)) events = some task ∧
      applicationRequests task.state.callerView.history =
        [⟨1, 1, .ok firstFrame⟩, ⟨2, 2, .ok secondFrame⟩] ∧
      initialBlock zeroNonce firstFrame ≠ initialBlock zeroNonce secondFrame := by
  have observed : (observe (TiltBleSession.performAll .constant .zero
      [.readStatus, .readStatus]) (World.authenticated zeroNonce) [.resume .completed,
        .resume .timedOut, .resume .completed, .resume .timedOut]).map
        (fun seen => applicationRequests seen.1) =
      some [⟨1, 1, .ok [0, 1, 1, 16, 240, 146]⟩, ⟨2, 2, .ok [0, 2, 2, 16, 243, 158]⟩] := by
    decide +kernel
  rcases Option.map_eq_some_iff.mp observed with ⟨⟨history, outcome⟩, seen, same⟩
  rcases observe_eq_some seen with ⟨task, reached, rfl, _⟩
  refine ⟨_, task, _, _, reached, same, fun shared => ?_⟩
  have apart := (requests_shareBlock_iff .constant .zero zeroNonce _ (World.authenticated zeroNonce)
    (World.authenticated_isAuthenticated zeroNonce) _ task reached 0 1 1 2 1 2 _ _
    (by rw [same]; rfl) (by rw [same]; rfl)).2.2.mp shared
  cases apart

/-! ## A conversation that wraps the counter -/

theorem requestsFrom_replicate {primitives : CryptoPrimitives} {key : PairingKey} {nonce : Bytes}
    {count index position : Nat} (inside : position < count) :
    (requestsFrom primitives key nonce index (List.replicate count .readStatus))[position]? =
      some ⟨counterAt (index + position), messageIdAt (index + position),
        encodeReadRequest primitives ShadeCommand.getStatus.toInt key.bytes nonce
          (counterAt (index + position)) (messageIdAt (index + position))⟩ := by
  induction count generalizing index position with
  | zero => omega
  | succ count induction =>
      rw [List.replicate_succ]
      cases position with
      | zero => rfl
      | succ position =>
          have rest : index + (position + 1) = index + 1 + position := by omega
          rw [rest]
          exact induction (by omega)

/-- After 0x7FFF requests the counter is 1 again, under the same nonce. -/
theorem requests_shareBlock_wrapped : ∃ events task firstFrame secondFrame,
    eventLoop.run (eventLoop.settle (TiltBleSession.performAll .constant .zero
        (List.replicate 0x8000 .readStatus)) (World.authenticated zeroNonce)) events =
        some task ∧
      (applicationRequests task.state.callerView.history)[0]? = some ⟨1, 1, .ok firstFrame⟩ ∧
      (applicationRequests task.state.callerView.history)[0x7FFF]? =
        some ⟨1, 8, .ok secondFrame⟩ ∧
      initialBlock zeroNonce firstFrame = initialBlock zeroNonce secondFrame ∧
      decryptAppRequest .constant firstFrame PairingKey.zero.bytes zeroNonce ≠
        decryptAppRequest .constant secondFrame PairingKey.zero.bytes zeroNonce := by
  have authenticated := World.authenticated_isAuthenticated zeroNonce
  rcases eventLoop_exists_finished (TiltBleSession.performAll .constant .zero
    (List.replicate 0x8000 .readStatus)) (World.authenticated zeroNonce) with
    ⟨events, outcome, state, finished⟩
  have whole := ((performAll_requests authenticated.numbered _).reached finished).2 outcome rfl
  rw [authenticated.noRequests, List.nil_append] at whole
  refine ⟨events, _, [0, 1, 1, 16, 240, 146], [0, 1, 8, 16, 104, 40], finished, ?_, ?_, rfl, ?_⟩
  · change (applicationRequests state.callerView.history)[0]? = _
    rw [whole, requestsFrom_replicate (by decide)]
    decide +kernel
  · change (applicationRequests state.callerView.history)[0x7FFF]? = _
    rw [whole, requestsFrom_replicate (by decide)]
    decide +kernel
  · decide +kernel

end SmartblindsBle
