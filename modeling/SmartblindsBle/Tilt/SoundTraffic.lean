import SmartblindsBle.Tilt.Handshake
import SmartblindsBle.Tilt.RequestFormat

/-! # The requests and chunks of every run

Whatever the shade answers and whatever fails, the ids of a session stay in their
ranges, so none of its requests fails to encode, and every frame goes out in one
chunk.
-/

namespace SmartblindsBle

open Foundation

/-- The ids of a request are in range, and its frame fits into one chunk. -/
structure SoundRequest (counter messageId : Int) (encoded : Raises Bytes) : Prop where
  counter : 1 ≤ counter ∧ counter ≤ maxCounter
  messageId : 1 ≤ messageId ∧ messageId ≤ 15
  encoded : ∃ frame, encoded = .ok frame ∧ frame.length ≤ maxBlePayload

/-- A chunk that carries a whole frame. -/
def WholeFrame (chunk : Bytes) : Prop :=
  ∃ sequence frame, (1 ≤ sequence ∧ sequence ≤ maxSequence) ∧ frame ≠ [] ∧
    frame.length ≤ maxBlePayload ∧ chunk = dataChunk sequence true frame

/-- An action that is sound by itself. -/
def SoundAction : Action → Prop
  | .requested counter messageId encoded => SoundRequest counter messageId encoded
  | .handed chunk => WholeFrame chunk
  | _ => True

/-- What the methods of a session keep of its ids and of the history. -/
structure SoundTraffic (view : CallerView) : Prop where
  actions : ∀ action ∈ view.history, SoundAction action
  txSequence : 1 ≤ view.txSequence ∧ view.txSequence ≤ maxSequence
  counter : 1 ≤ view.counter ∧ view.counter ≤ maxCounter
  messageId : 1 ≤ view.messageId ∧ view.messageId ≤ 15
  nonce : ∀ nonce, view.nonce = some nonce → nonce.length = 12

/-! ## Ranges -/

theorem counterAfter_inRange {counter : Int} (inRange : 1 ≤ counter ∧ counter ≤ maxCounter) :
    1 ≤ TiltBleSession.counterAfter counter ∧
      TiltBleSession.counterAfter counter ≤ maxCounter := by
  unfold TiltBleSession.counterAfter
  unfold maxCounter at *
  split
  · omega
  · omega

theorem messageIdAfter_inRange {messageId : Int} (inRange : 1 ≤ messageId ∧ messageId ≤ 15) :
    1 ≤ TiltBleSession.messageIdAfter messageId ∧
      TiltBleSession.messageIdAfter messageId ≤ 15 := by
  unfold TiltBleSession.messageIdAfter
  split
  · omega
  · omega

theorem SoundTraffic.validIds {view : CallerView} (sound : SoundTraffic view) (key : PairingKey)
    {nonce : Bytes} (isNonce : view.nonce = some nonce) :
    ValidRequestIds key.bytes nonce view.counter view.messageId where
  key_length := key.length_eq
  nonce_length := sound.nonce nonce isNonce
  counter := sound.counter
  messageId := ⟨Int.le_trans (by decide) sound.messageId.1, sound.messageId.2⟩

/-! ## Encodable requests -/

/-- The request of a call is encoded whenever the ids are in range. -/
def SessionCall.Encodes {primitives : CryptoPrimitives} {key : PairingKey} {Result : Type}
    (call : SessionCall primitives key Result) : Prop :=
  ∀ (nonce : Bytes) (counter messageId : Int),
    ValidRequestIds key.bytes nonce counter messageId →
      ∃ frame, call.encode nonce counter messageId = .ok frame

theorem statusCall_encodes (primitives : CryptoPrimitives) (key : PairingKey) :
    (statusCall primitives key).Encodes := by
  intro nonce counter messageId valid
  exact (encodeReadRequest_exact primitives ShadeCommand.getStatus.toInt key.bytes nonce counter
    messageId).succeeds.mpr ⟨by decide, valid⟩

theorem positionCall_encodes (primitives : CryptoPrimitives) (key : PairingKey) {percent : Int}
    (inRange : 0 ≤ percent ∧ percent ≤ 100) :
    (positionCall primitives key (.int percent)).Encodes := by
  intro nonce counter messageId valid
  have accepted : ValidPosition (.int percent) TiltBleSession.defaultSpeed percent 100 :=
    ⟨⟨rfl, inRange⟩, rfl, by decide, by decide⟩
  exact (encodePositionRequest_exact primitives (.int percent) TiltBleSession.defaultSpeed
    key.bytes nonce counter messageId).succeeds.mpr ⟨⟨percent, 100, accepted⟩, valid⟩

namespace SoundTraffic

variable {network : Network} {primitives : CryptoPrimitives} {key : PairingKey}
variable {start later view : CallerView}

theorem record (sound : SoundTraffic view) {action : Action} (isSound : SoundAction action) :
    SoundTraffic (view.record action) := by
  constructor
  · intro other member
    rcases List.mem_append.mp member with before | last
    · exact sound.actions other before
    · rw [List.mem_singleton.mp last]
      exact isSound
  · exact sound.txSequence
  · exact sound.counter
  · exact sound.messageId
  · exact sound.nonce

theorem newSession (sound : SoundTraffic view) : SoundTraffic view.newSession := by
  have created : SoundAction .sessionCreated := trivial
  constructor
  · exact (sound.record created).actions
  · exact ⟨Nat.le_refl 1, (by decide : 1 ≤ maxSequence)⟩
  · exact ⟨Int.le_refl 1, (by decide : 1 ≤ maxCounter)⟩
  · exact ⟨Int.le_refl 1, (by decide : (1 : Int) ≤ 15)⟩
  · exact nofun

theorem noSession (sound : SoundTraffic view) : SoundTraffic view.noSession :=
  ⟨sound.actions, sound.txSequence, sound.counter, sound.messageId, sound.nonce⟩

theorem confirm (sound : SoundTraffic view) : SoundTraffic view.confirm := by
  have confirmed : SoundAction (.confirmed view.txSequence) := trivial
  constructor
  · exact (sound.record confirmed).actions
  · exact ⟨sequenceAfter_pos _, sequenceAfter_le sound.txSequence.2⟩
  · exact sound.counter
  · exact sound.messageId
  · exact sound.nonce

theorem request (sound : SoundTraffic view) {encoded : Raises Bytes}
    (isSound : SoundRequest view.counter view.messageId encoded) :
    SoundTraffic (view.request encoded) := by
  have requested : SoundAction (.requested view.counter view.messageId encoded) := isSound
  constructor
  · exact (sound.record requested).actions
  · exact sound.txSequence
  · exact counterAfter_inRange sound.counter
  · exact messageIdAfter_inRange sound.messageId
  · exact sound.nonce

/-! ## The methods of a session -/

theorem sending {frame : Bytes} {attempts : Nat} (sound : SoundTraffic start)
    (sends : Sending frame attempts start later) (nonempty : frame ≠ [])
    (fits : frame.length ≤ maxBlePayload) : SoundTraffic later := by
  apply sends.preserves SoundTraffic sound
  · intro copies _ holds
    have whole : WholeFrame (start.chunkOf frame) :=
      ⟨start.txSequence, frame, sound.txSequence, nonempty, fits, rfl⟩
    have handed : SoundAction (.handed (start.chunkOf frame)) := whole
    exact holds.record handed
  · intro view holds
    exact holds.confirm
  · intro view reply holds
    have received : SoundAction (.received reply) := trivial
    exact holds.record received

theorem cryptoSending {command : CryptoCommand} {payload : Bytes} (short : payload.length ≤ 1)
    (sound : SoundTraffic start) (sends : Sending (cryptoFrame command payload) 2 start later) :
    SoundTraffic later := by
  have frameLength := cryptoFrame_length command payload
  apply sound.sending sends
  · intro isEmpty
    rw [isEmpty, List.length_nil] at frameLength
    omega
  · rw [frameLength]
    unfold maxBlePayload
    omega

theorem authenticating (sound : SoundTraffic start)
    (authenticating : Authenticating network primitives key start later) :
    SoundTraffic later := by
  have noPayload : ([] : Bytes).length ≤ 1 := Nat.zero_le 1
  have onePayload : ∀ selected : UInt8, [selected].length ≤ 1 := fun _ => Nat.le_refl 1
  cases authenticating with
  | versions sends => exact sound.cryptoSending noPayload sends
  | selection versions sends =>
      have first := sound.cryptoSending noPayload versions.sending
      exact first.cryptoSending (onePayload _) sends
  | nonce versions selection sends =>
      have first := sound.cryptoSending noPayload versions.sending
      have second := first.cryptoSending (onePayload _) selection.sending
      exact second.cryptoSending noPayload sends
  | @verified selected nonce first second third versions selection proof =>
      have soundFirst := sound.cryptoSending noPayload versions.sending
      have soundSecond := soundFirst.cryptoSending (onePayload _) selection.sending
      have soundThird := soundSecond.cryptoSending noPayload proof.sending
      rcases HandshakeStep.cases_ok proof with ⟨_, nonceFrame, _, _, _, verified⟩
      have proves := verifiedNonce_eq_ok_iff.mp verified
      constructor
      · exact soundThird.actions
      · exact soundThird.txSequence
      · exact soundThird.counter
      · exact soundThird.messageId
      · intro other isNonce
        cases isNonce
        exact proves.1

variable {Result : Type} {call : SessionCall primitives key Result}

theorem exchanging (sound : SoundTraffic start) (encodes : call.Encodes)
    (exchanging : Exchanging call start later) : SoundTraffic later := by
  cases exchanging with
  | idle => exact sound
  | unencoded isNonce encoded =>
      rcases encodes _ _ _ (sound.validIds key isNonce) with ⟨frame, succeeded⟩
      rw [succeeded] at encoded
      cases encoded
  | @sending nonce frame later isNonce encoded sends =>
      rcases call.fits encoded with ⟨nonempty, fits⟩
      have requested : SoundTraffic (start.request (.ok frame)) :=
        sound.request ⟨sound.counter, sound.messageId, frame, rfl, fits⟩
      exact requested.sending sends nonempty fits

theorem calling (sound : SoundTraffic start) (encodes : call.Encodes)
    (calling : Calling network call start later) : SoundTraffic later := by
  rcases calling with exchanging | ⟨outcome, response, last, exchanged, _, rfl⟩
  · exact sound.exchanging encodes exchanging
  · have noted : SoundAction (call.note outcome) := by
      have isOutcome := call.isCallOutcome outcome
      cases action : call.note outcome with
      | statusRead _ => trivial
      | positionSet _ => trivial
      | _ =>
          rw [action] at isOutcome
          cases isOutcome
    exact (sound.exchanging encodes exchanged.exchanging).record noted

theorem positionOperating {percent : Int} (sound : SoundTraffic start)
    (inRange : 0 ≤ percent ∧ percent ≤ 100)
    (operating : PositionOperating network primitives key percent start later) :
    SoundTraffic later := by
  have reads := statusCall_encodes primitives key
  have writes := positionCall_encodes primitives key inRange
  cases operating with
  | reading calling => exact sound.calling reads calling
  | setting read differs calling =>
      have first := sound.calling reads read.calling
      exact first.calling writes calling
  | readingBack read differs set calling =>
      have first := sound.calling reads read.calling
      have second := first.calling writes set.calling
      exact second.calling reads calling

/-! ## Runs of the client -/

theorem session {operation : Async Result} (sound : SoundTraffic view)
    (operates : ∀ later, SoundTraffic later → Keeps network operation SoundTraffic later) :
    Keeps network (TiltBleSession.authenticate primitives key >>= fun _ => operation)
      SoundTraffic view.newSession := by
  have start := sound.newSession
  apply Keeps.bind
  · apply (TiltBleSession.authenticate_behaves view.newSession).mono
    · intro later authenticating
      exact start.authenticating authenticating
    · intro outcome later ended
      exact start.authenticating ended.authenticating
  · intro value later holds
    exact operates later holds

theorem perform {client : TiltShadeClient} (call : ClientCall) (sound : SoundTraffic view) :
    Keeps network (client.perform primitives call) SoundTraffic view := by
  have reads := statusCall_encodes primitives client.pairingKey
  cases call with
  | readStatus =>
      apply Keeps.bind
      · apply readStatus_keeps sound
        · exact fun view holds => holds.noSession
        · exact fun view holds => holds.newSession
        · intro view holds
          apply holds.session
          intro later start
          apply (TiltBleSession.readStatus_behaves later).mono
          · exact fun last => start.calling reads
          · exact fun outcome last ended => start.calling reads ended.calling
      · exact fun _ later => Keeps.done
  | setPositionAndReadStatus positionPercent settleSeconds =>
      apply Keeps.bind
      · unfold TiltShadeClient.setPositionAndReadStatus
        cases requested : client.requestedPosition positionPercent with
        | error error => exact Keeps.done sound
        | ok percent =>
            have inRange := (client.requestedPosition_eq_ok requested).2.2
            apply runSession_keeps sound sound.noSession sound.noSession.newSession
            apply sound.noSession.session
            intro later start
            apply (positionOperation_behaves settleSeconds later).mono
            · exact fun last => start.positionOperating inRange
            · exact fun outcome last ended => start.positionOperating inRange ended.operating
      · exact fun _ later => Keeps.done

theorem initial : SoundTraffic World.initial.callerView where
  actions := nofun
  txSequence := ⟨Nat.le_refl 1, (by decide : 1 ≤ maxSequence)⟩
  counter := ⟨Int.le_refl 1, (by decide : 1 ≤ maxCounter)⟩
  messageId := ⟨Int.le_refl 1, (by decide : (1 : Int) ≤ 15)⟩
  nonce := nofun

end SoundTraffic

theorem World.mem_callerView_history {world : World} {action : Action}
    (isOwn : action.isAcknowledged = false) (member : action ∈ world.history) :
    action ∈ world.callerView.history := by
  apply List.mem_filter.mpr
  rw [isOwn]
  exact ⟨member, rfl⟩

/-- Sound traffic. In every run of a client's calls, whatever the shade sends and
whatever fails, no request fails to encode: its counter is in 1..0x7FFF, its
message id in 1..15, and its frame has at most 18 bytes. Every GATT write of the
client is one chunk with such a whole frame and a sequence number in 1..63. -/
theorem performAll_sound_traffic (primitives : CryptoPrimitives) (client : TiltShadeClient)
    (calls : List ClientCall) (events : List (Event Background Choice))
    (task : Task World Operation Operation.Reply PythonException Unit)
    (reached : eventLoop.run (eventLoop.settle (client.performAll primitives calls) .initial)
      events = some task) :
    (∀ counter messageId encoded, .requested counter messageId encoded ∈ task.state.history →
        SoundRequest counter messageId encoded) ∧
      ∀ chunk, .handed chunk ∈ task.state.history → WholeFrame chunk := by
  have keeps : Keeps .arbitrary (client.performAll primitives calls) SoundTraffic
      World.initial.callerView := by
    apply performAll_keeps
    · intro view call sound
      have called : SoundAction (.called call) := trivial
      exact (sound.record called).perform call
    · exact SoundTraffic.initial
  have sound := (Behaves.reached keeps reached).1
  constructor
  · intro counter messageId encoded member
    exact sound.actions _ (World.mem_callerView_history rfl member)
  · intro chunk member
    exact sound.actions _ (World.mem_callerView_history rfl member)

/-- A status read up to the write of its request. -/
theorem performAll_sound_traffic_reading : ∃ events task,
    eventLoop.run (eventLoop.settle (sampleClient.performAll .constant [.readStatus]) .initial)
      events = some task ∧
    SoundRequest 1 1 (.ok [0, 1, 1, 16, 240, 146]) ∧
    WholeFrame [0, 68, 0, 1, 1, 16, 240, 146] ∧
    .requested 1 1 (.ok [0, 1, 1, 16, 240, 146]) ∈ task.state.history ∧
    .handed [0, 68, 0, 1, 1, 16, 240, 146] ∈ task.state.history := by
  have observed : (eventLoop.run
      (eventLoop.settle (sampleClient.performAll .constant [.readStatus]) .initial)
      (openSession ++ answerHandshake .constant .zero zeroNonce)).map
        (fun task => decide (
          .requested 1 1 (.ok [0, 1, 1, 16, 240, 146]) ∈ task.state.history ∧
          .handed [0, 68, 0, 1, 1, 16, 240, 146] ∈ task.state.history)) = some true := by
    decide +kernel
  rcases Option.map_eq_some_iff.mp observed with ⟨task, reached, seen⟩
  have members := of_decide_eq_true seen
  have sound := performAll_sound_traffic .constant sampleClient [.readStatus] _ task reached
  exact ⟨_, task, reached, sound.1 1 1 _ members.1, sound.2 _ members.2, members⟩

end SmartblindsBle
