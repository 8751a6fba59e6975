import SmartblindsBle.Tilt.Handshake

/-! # Movement of the shade

Only a SET_POSITION chunk moves the shade. Each call hands out at most one, and
only when everything that guards a movement has succeeded before.
-/

namespace SmartblindsBle

open Foundation

/-! ## SET_POSITION chunks -/

/-- A data chunk of a SET_POSITION frame under this key. -/
def IsPositionChunk (primitives : CryptoPrimitives) (key : PairingKey) (chunk : Bytes) : Prop :=
  ∃ positionPercent speed nonce counter messageId frame sequence chunks,
    encodePositionRequest primitives positionPercent key.bytes nonce counter messageId speed =
      .ok frame ∧
    chunkForBle frame sequence = .ok chunks ∧ chunk ∈ chunks

section Chunks

variable {primitives : CryptoPrimitives} {key : PairingKey}

theorem encodePositionRequest_length {positionPercent speed : PythonValue} {nonce frame : Bytes}
    {counter messageId : Int}
    (encoded : encodePositionRequest primitives positionPercent key.bytes nonce counter messageId
      speed = .ok frame) : frame.length = 9 := by
  rcases encodePositionRequest_eq_ok encoded with ⟨percent, speedPercent, _, _, _, _, requested⟩
  rw [(encodeApplicationRequest_length requested).1]
  simp [positionPayload]

theorem IsPositionChunk.length {chunk : Bytes} (isPosition : IsPositionChunk primitives key chunk) :
    chunk.length = 11 := by
  rcases isPosition with
    ⟨positionPercent, speed, nonce, counter, messageId, frame, sequence, chunks, encoded, cut,
      member⟩
  have frameLength := encodePositionRequest_length encoded
  have nonempty : frame ≠ [] := by
    rintro rfl
    cases frameLength
  by_cases inRange : 1 ≤ sequence ∧ sequence ≤ maxSequence
  · rw [chunkForBle_single nonempty (by rw [frameLength]; decide) inRange.1 inRange.2] at cut
    cases cut
    rw [List.mem_singleton.mp member]
    simp [dataChunk, frameLength]
  · rw [chunkForBle, if_neg nonempty, if_pos inRange] at cut
    cases cut

theorem not_isPositionChunk (chunk : Bytes) (other : chunk.length ≠ 11) :
    ¬IsPositionChunk primitives key chunk := by
  intro isPosition
  exact other isPosition.length

theorem chunkOf_length (frame : Bytes) (view : CallerView) :
    (view.chunkOf frame).length = frame.length + 2 := by
  simp [CallerView.chunkOf, dataChunk]

end Chunks

/-! ## When a SET_POSITION chunk may be handed out -/

/-- The current call has not moved the shade yet, and its status reads so far
had these outcomes. -/
def Unmoved (primitives : CryptoPrimitives) (key : PairingKey) (call : ClientCall)
    (reads : List (Raises ShadeStatus)) (history : List Action) : Prop :=
  ∃ actions, currentCall history = some (call, actions) ∧
    (∀ chunk, .handed chunk ∈ actions → ¬IsPositionChunk primitives key chunk) ∧
    statusReads actions = reads

/-- The frame of the chunk decrypts to ten times the percentage under the nonce of
a reply that proved the pairing key in the same session. -/
def CommandsPosition (primitives : CryptoPrimitives) (key : PairingKey) (percent : Int)
    (before : List Action) (chunk : Bytes) : Prop :=
  ∃ nonce sequence frame counter messageId payload,
    VerifiedNonce primitives key before nonce ∧ chunk = dataChunk sequence true frame ∧
    decryptAppRequest primitives frame key.bytes nonce =
      .ok ⟨counter, messageId, .setPosition, payload⟩ ∧
    (ofLittleEndian (payload.take 2) : Int) = 10 * percent

/-- A SET_POSITION chunk is handed out only by a call of
`set_position_and_read_status` that may write, has a target in range, has not
handed one out before, and has read a status that differs from the target. -/
def MovementAllowed (primitives : CryptoPrimitives) (client : TiltShadeClient)
    (before : List Action) (chunk : Bytes) : Prop :=
  IsPositionChunk primitives client.pairingKey chunk →
    ∃ percent settleSeconds status,
      client.allowPositionWrites = true ∧ (0 ≤ percent ∧ percent ≤ 100) ∧
      status.positionPercent ≠ percent ∧
      Unmoved primitives client.pairingKey
        (.setPositionAndReadStatus (.int percent) settleSeconds) [.ok status] before ∧
      CommandsPosition primitives client.pairingKey percent before chunk

/-! ## Traffic other than SET_POSITION -/

def Action.isLink : Action → Bool
  | .confirmed _ | .received _ | .requested _ _ _ => true
  | _ => false

/-- A property of histories that no traffic other than SET_POSITION disturbs. -/
structure Undisturbed (property : List Action → Prop) : Prop where
  handed : ∀ {history : List Action} {chunk : Bytes}, chunk.length ≠ 11 → property history →
    property (history ++ [.handed chunk])
  linked : ∀ {history : List Action} {action : Action}, action.isLink = true →
    property history → property (history ++ [action])

section Traffic

variable {network : Network} {primitives : CryptoPrimitives} {key : PairingKey}
variable {property : List Action → Prop} {start later : CallerView}

theorem Undisturbed.sending (undisturbed : Undisturbed property) (holds : property start.history)
    {frame : Bytes} {attempts : Nat} (other : frame.length ≠ 9)
    (sends : Sending frame attempts start later) : property later.history := by
  refine sends.preserves (fun view => property view.history) holds ?_ ?_ ?_
  · intro copies _ holds
    exact undisturbed.handed (by rw [chunkOf_length]; omega) holds
  · exact fun view holds => undisturbed.linked rfl holds
  · exact fun view reply holds => undisturbed.linked rfl holds

theorem Undisturbed.exchanging {Result : Type} {call : SessionCall primitives key Result}
    (undisturbed : Undisturbed property) (holds : property start.history)
    (other : ∀ nonce counter messageId frame,
      call.encode nonce counter messageId = .ok frame → frame.length ≠ 9)
    (exchanging : Exchanging call start later) : property later.history := by
  cases exchanging with
  | idle => exact holds
  | unencoded isNonce encoded => exact undisturbed.linked rfl holds
  | sending isNonce encoded sends =>
      exact undisturbed.sending (undisturbed.linked rfl holds) (other _ _ _ _ encoded) sends

theorem statusCall_length {nonce frame : Bytes} {counter messageId : Int}
    (encoded : (statusCall primitives key).encode nonce counter messageId = .ok frame) :
    frame.length ≠ 9 := by
  have requested : encodeApplicationRequest primitives ShadeCommand.getStatus.toInt [] key.bytes
      nonce counter messageId = .ok frame := encodeReadRequest_eq_ok encoded
  rw [(encodeApplicationRequest_length requested).1]
  simp

theorem Undisturbed.authenticating (undisturbed : Undisturbed property)
    (holds : property start.history)
    (authenticating : Authenticating network primitives key start later) :
    property later.history := by
  have step : ∀ {Value : Type} {frame : Bytes} {check : Bytes → Raises Value}
      {start later : CallerView} {outcome : Raises Value}, property start.history →
      frame.length ≠ 9 → HandshakeStep network frame check start outcome later →
      property later.history :=
    fun holds other step => undisturbed.sending holds other step.sending
  have versionsLength : versionsRequest.length ≠ 9 := by decide
  have selectionLength : ∀ selected, (selectionRequest selected).length ≠ 9 := by
    simp [selectionRequest]
  have nonceLength : nonceRequest.length ≠ 9 := by decide
  cases authenticating with
  | versions sends => exact undisturbed.sending holds versionsLength sends
  | selection versions sends =>
      exact undisturbed.sending (step holds versionsLength versions) (selectionLength _) sends
  | nonce versions selection sends =>
      exact undisturbed.sending
        (step (step holds versionsLength versions) (selectionLength _) selection)
        nonceLength sends
  | @verified selected nonce first second third versions selection proof =>
      change property third.history
      exact step (step (step holds versionsLength versions) (selectionLength _) selection)
        nonceLength proof

theorem movementAllowed_undisturbed (client : TiltShadeClient) :
    Undisturbed (EveryHanded (MovementAllowed primitives client)) := by
  constructor
  · intro history chunk other every
    apply every.append
    rintro handed isHanded isPosition
    cases isHanded
    exact absurd isPosition.length other
  · intro history action isLink every
    apply every.append_other
    rintro chunk rfl
    cases isLink

theorem Unmoved.append {call : ClientCall} {reads : List (Raises ShadeStatus)}
    {history : List Action} {action : Action} (unmoved : Unmoved primitives key call reads history)
    (notCall : ∀ call, action ≠ .called call)
    (harmless : ∀ chunk, action = .handed chunk → ¬IsPositionChunk primitives key chunk) :
    Unmoved primitives key call (reads ++ statusReads [action]) (history ++ [action]) := by
  rcases unmoved with ⟨actions, current, unmoved, rfl⟩
  refine ⟨actions ++ [action], ?_, ?_, statusReads_append _ _⟩
  · rw [currentCall_append history notCall, current]
    rfl
  · intro chunk member
    rcases List.mem_append.mp member with earlier | last
    · exact unmoved chunk earlier
    · exact harmless chunk (List.mem_singleton.mp last).symm

theorem unmoved_undisturbed (call : ClientCall) (reads : List (Raises ShadeStatus)) :
    Undisturbed (Unmoved primitives key call reads) := by
  have append : ∀ {history : List Action} {action : Action}, statusReads [action] = [] →
      Unmoved primitives key call (reads ++ statusReads [action]) (history ++ [action]) →
      Unmoved primitives key call reads (history ++ [action]) := by
    intro history action notRead unmoved
    rwa [notRead, List.append_nil] at unmoved
  constructor
  · intro history chunk other unmoved
    refine append rfl (unmoved.append (fun _ => nofun) ?_)
    rintro handed isHanded isPosition
    cases isHanded
    exact other isPosition.length
  · intro history action isLink unmoved
    cases action with
    | confirmed sequence =>
        exact append rfl (unmoved.append (fun _ => nofun) fun _ => nofun)
    | received frame =>
        exact append rfl (unmoved.append (fun _ => nofun) fun _ => nofun)
    | requested counter messageId frame =>
        exact append rfl (unmoved.append (fun _ => nofun) fun _ => nofun)
    | _ => cases isLink

end Traffic

/-! ## The discipline of a client -/

section Discipline

variable {network : Network} {primitives : CryptoPrimitives} {client : TiltShadeClient}
variable {start later : CallerView}

/-- The invariant of the client: sessions are guarded, and so are movements. -/
structure Disciplined (primitives : CryptoPrimitives) (client : TiltShadeClient)
    (view : CallerView) : Prop where
  guarded : Guarded primitives client.pairingKey view
  everyMovement : EveryHanded (MovementAllowed primitives client) view.history

theorem Undisturbed.statusCalling {key : PairingKey} {property : List Action → Prop}
    (undisturbed : Undisturbed property)
    (noted : ∀ history outcome, property history → property (history ++ [.statusRead outcome]))
    (holds : property start.history)
    (calling : Calling network (statusCall primitives key) start later) :
    property later.history := by
  rcases calling with exchanging | ⟨outcome, response, exchanged, ended, _, rfl⟩
  · exact undisturbed.exchanging holds (fun _ _ _ _ => statusCall_length) exchanging
  · apply noted _ outcome
    exact undisturbed.exchanging holds (fun _ _ _ _ => statusCall_length) ended.exchanging

theorem Disciplined.statusCalling (disciplined : Disciplined primitives client start)
    (calling : Calling network (statusCall primitives client.pairingKey) start later) :
    Disciplined primitives client later := by
  refine ⟨disciplined.guarded.calling calling, ?_⟩
  refine (movementAllowed_undisturbed client).statusCalling ?_ disciplined.everyMovement calling
  exact fun history outcome every => every.append_other nofun

theorem Unmoved.statusRead {call : ClientCall} {reads : List (Raises ShadeStatus)}
    {outcome : Raises ShadeStatus}
    (unmoved : Unmoved primitives client.pairingKey call reads start.history)
    (ended : CallEnds network (statusCall primitives client.pairingKey) start outcome later) :
    Unmoved primitives client.pairingKey call (reads ++ [outcome]) later.history := by
  rcases ended with ⟨response, exchanged, exchange, _, rfl⟩
  have same := (unmoved_undisturbed call reads).exchanging unmoved
    (fun _ _ _ _ => statusCall_length) exchange.exchanging
  exact same.append (fun _ => nofun) fun _ => nofun

theorem Guarded.commandsPosition {percent : Int} {nonce frame : Bytes}
    (guarded : Guarded primitives client.pairingKey start) (isNonce : start.nonce = some nonce)
    (encoded : (positionCall primitives client.pairingKey (.int percent)).encode nonce
      start.counter start.messageId = .ok frame) :
    CommandsPosition primitives client.pairingKey percent (start.request (.ok frame)).history
      (start.chunkOf frame) := by
  have encodes : encodePositionRequest primitives (.int percent) client.pairingKey.bytes nonce
      start.counter start.messageId TiltBleSession.defaultSpeed = .ok frame := encoded
  rcases encodePositionRequest_eq_ok encodes with
    ⟨percent, speed, ⟨⟩, _, inRange, _, requested⟩
  refine ⟨nonce, start.txSequence, frame, start.counter, start.messageId,
    positionPayload percent speed, (guarded.nonceVerified nonce isNonce).append nofun, rfl,
    decryptAppRequest_encode requested, ?_⟩
  have front : (positionPayload percent speed).take 2 = toLittleEndian 2 (percent * 10).toNat :=
    List.take_left' (toLittleEndian_length _ _)
  rw [front, ofLittleEndian_toLittleEndian, Nat.mod_eq_of_lt (by omega)]
  omega

/-- The only call that moves the shade sends its frame once, without a retry. -/
theorem Disciplined.positionCalling {percent : Int} {settleSeconds : Rat} {before : ShadeStatus}
    (disciplined : Disciplined primitives client start)
    (writes : client.allowPositionWrites = true) (inRange : 0 ≤ percent ∧ percent ≤ 100)
    (differs : before.positionPercent ≠ percent)
    (unmoved : Unmoved primitives client.pairingKey
      (.setPositionAndReadStatus (.int percent) settleSeconds) [.ok before] start.history)
    (calling : Calling network (positionCall primitives client.pairingKey (.int percent)) start
      later) : Disciplined primitives client later := by
  refine ⟨disciplined.guarded.calling calling, ?_⟩
  have everyMovement := disciplined.everyMovement
  have exchanging : ∀ later,
      Exchanging (positionCall primitives client.pairingKey (.int percent)) start later →
      EveryHanded (MovementAllowed primitives client) later.history := by
    rintro later (_ | ⟨isNonce, encoded⟩ | ⟨isNonce, encoded, sends⟩)
    · exact everyMovement
    · exact everyMovement.append_other nofun
    · next nonce frame =>
      have allowed : MovementAllowed primitives client (start.request (.ok frame)).history
          (start.chunkOf frame) := fun _ =>
        ⟨percent, settleSeconds, before, writes, inRange, differs,
          (unmoved_undisturbed _ _).linked rfl unmoved,
          disciplined.guarded.commandsPosition isNonce encoded⟩
      refine sends.preserves
        (fun view => EveryHanded (MovementAllowed primitives client) view.history) ?_ ?_ ?_ ?_
      · exact everyMovement.append_other nofun
      · intro copies bound every
        -- a single attempt: this copy is the first
        have first : copies = 0 := by
          change copies < 1 at bound
          omega
        subst first
        apply every.append
        rintro chunk isHanded
        cases isHanded
        rw [CallerView.hand_zero]
        exact allowed
      · exact fun view every => every.append_other nofun
      · exact fun view reply every => every.append_other nofun
  rcases calling with calling | ⟨outcome, response, exchanged, ended, _, rfl⟩
  · exact exchanging later calling
  · exact (exchanging exchanged ended.exchanging).append_other nofun

theorem Disciplined.positionOperating {percent : Int} {settleSeconds : Rat}
    (disciplined : Disciplined primitives client start)
    (writes : client.allowPositionWrites = true) (inRange : 0 ≤ percent ∧ percent ≤ 100)
    (unmoved : Unmoved primitives client.pairingKey
      (.setPositionAndReadStatus (.int percent) settleSeconds) [] start.history)
    (operating : PositionOperating network primitives client.pairingKey percent start later) :
    Disciplined primitives client later := by
  cases operating with
  | reading calling => exact disciplined.statusCalling calling
  | setting read differs calling =>
      exact (disciplined.statusCalling read.calling).positionCalling writes inRange differs
        (unmoved.statusRead read) calling
  | readingBack read differs set calling =>
      have written := (disciplined.statusCalling read.calling).positionCalling writes inRange
        differs (unmoved.statusRead read) set.calling
      exact written.statusCalling calling

theorem Disciplined.newSession {view : CallerView}
    (disciplined : Disciplined primitives client view) :
    Disciplined primitives client view.newSession :=
  ⟨disciplined.guarded.newSession.1, disciplined.everyMovement.append_other nofun⟩

theorem Disciplined.authenticating {view : CallerView}
    (disciplined : Disciplined primitives client view)
    (authenticating : Authenticating network primitives client.pairingKey view.newSession later) :
    Disciplined primitives client later :=
  ⟨disciplined.guarded.newSession.1.authenticating disciplined.guarded.newSession.2
      authenticating,
    (movementAllowed_undisturbed client).authenticating disciplined.newSession.everyMovement
      authenticating⟩

theorem Disciplined.perform {view : CallerView} (call : ClientCall)
    (disciplined : Disciplined primitives client view) :
    Keeps network (client.perform primitives call) (Disciplined primitives client)
      (view.record (.called call)) := by
  have called : Disciplined primitives client (view.record (.called call)) :=
    ⟨disciplined.guarded.record nofun nofun, disciplined.everyMovement.append_other nofun⟩
  have forgotten : ∀ {view : CallerView}, Disciplined primitives client view →
      Disciplined primitives client view.noSession :=
    fun holds => ⟨⟨holds.guarded.everyHanded, holds.guarded.nonceVerified⟩, holds.everyMovement⟩
  cases call with
  | readStatus =>
      refine Keeps.bind (readStatus_keeps called (fun _ => forgotten)
        (fun _ => Disciplined.newSession) fun view holds => ?_) fun _ later => Keeps.done
      refine Keeps.bind ((TiltBleSession.authenticate_behaves view.newSession).mono
        (fun _ => holds.authenticating) fun _ _ ended =>
          holds.authenticating ended.authenticating) fun _ later start => ?_
      exact (TiltBleSession.readStatus_behaves later).mono (fun _ => start.statusCalling)
        fun _ _ ended => start.statusCalling ended.calling
  | setPositionAndReadStatus positionPercent settleSeconds =>
      refine Keeps.bind ?_ fun _ later => Keeps.done
      cases requested : client.requestedPosition positionPercent with
      | error error =>
          unfold TiltShadeClient.setPositionAndReadStatus
          rw [requested]
          exact Keeps.done called
      | ok percent =>
          rcases client.requestedPosition_eq_ok requested with ⟨writes, rfl, inRange⟩
          unfold TiltShadeClient.setPositionAndReadStatus
          rw [requested]
          have unmoved : Unmoved primitives client.pairingKey
              (.setPositionAndReadStatus (.int percent) settleSeconds) []
              (view.record (.called (.setPositionAndReadStatus (.int percent)
                settleSeconds))).newSession.history := by
            have begun : Unmoved primitives client.pairingKey
                (.setPositionAndReadStatus (.int percent) settleSeconds) []
                (view.history ++ [.called (.setPositionAndReadStatus (.int percent)
                  settleSeconds)]) := ⟨[], currentCall_called _ _, nofun, rfl⟩
            exact begun.append (fun _ => nofun) fun _ => nofun
          apply runSession_keeps called (forgotten called) (forgotten called).newSession
          refine Behaves.bind ((TiltBleSession.authenticate_behaves _).mono
            (fun _ => (forgotten called).authenticating) ?_)
          rintro (error | ⟨⟩) later ended
          · exact (forgotten called).authenticating ended.authenticating
          · have start := (forgotten called).authenticating ended.authenticating
            have unmovedLater := (unmoved_undisturbed _ _).authenticating unmoved
              ended.authenticating
            exact (positionOperation_behaves settleSeconds later).mono
              (fun _ => start.positionOperating writes inRange unmovedLater)
              fun _ _ operated =>
                start.positionOperating writes inRange unmovedLater operated.operating

/-- At most one movement for each call, and only after everything that guards it:
in every run of any public calls, whatever the shade and the BLE client do. -/
theorem setPositionAndReadStatus_movesAtMostOnce (primitives : CryptoPrimitives)
    (client : TiltShadeClient) (calls : List ClientCall)
    (events : List (Event Background Choice))
    (task : Task World Operation Operation.Reply PythonException Unit)
    (reached : eventLoop.run
      (eventLoop.settle (client.performAll primitives calls) World.initial) events = some task) :
    EveryHanded (MovementAllowed primitives client) task.state.callerView.history := by
  have start : Disciplined primitives client World.initial.callerView :=
    ⟨⟨everyHanded_nil, nofun⟩, everyHanded_nil⟩
  have keeps : Keeps .arbitrary (client.performAll primitives calls)
      (Disciplined primitives client) World.initial.callerView :=
    performAll_keeps (fun view call holds => Disciplined.perform call holds) calls start
  exact (Behaves.reached keeps reached).1.everyMovement

theorem isPositionChunk_positionChunk : IsPositionChunk .constant .zero positionChunk :=
  ⟨.int 50, .int 100, zeroNonce, 2, 2, [0, 2, 2, 19, 244, 1, 100, 247, 158], 5, [positionChunk],
    by decide +kernel, by decide +kernel, List.mem_singleton_self _⟩

/-- A run in which the shade is moved. -/
theorem setPositionAndReadStatus_movesAtMostOnce_moving :
    ∃ before after, EveryHanded (MovementAllowed .constant ⟨"shade", .zero, true⟩)
      (before ++ .handed positionChunk :: after) := by
  have observed : (observe (TiltShadeClient.performAll .constant ⟨"shade", .zero, true⟩
      [.setPositionAndReadStatus (.int 50) 2]) World.initial
      ([.resume .completed, .resume .completed] ++
        connectAndAuthenticate .constant .zero zeroNonce ++
        readFirstStatus .constant .zero zeroNonce .closed)).map (fun seen =>
        seen.1.contains (.handed positionChunk)) = some true := by
    decide +kernel
  rcases Option.map_eq_some_iff.mp observed with ⟨⟨history, outcome⟩, seen, moved⟩
  rcases observe_eq_some seen with ⟨task, reached, rfl, _⟩
  rcases List.append_of_mem (List.contains_iff_mem.mp moved) with ⟨before, after, split⟩
  refine ⟨before, after, ?_⟩
  rw [← split]
  exact setPositionAndReadStatus_movesAtMostOnce .constant ⟨"shade", .zero, true⟩ _ _ task reached

end Discipline

end SmartblindsBle
