import SmartblindsBle.Tilt.Counters
import SmartblindsBle.Tilt.Handshake
import SmartblindsBle.Tilt.RequestFormat
import SmartblindsBle.Tilt.Retransmission
import SmartblindsBle.Tilt.Stages

/-! # Agreement over a loss-free link

A session that authenticates and then reads the status of a conforming shade gets
the shade's status every time. The methods of the session are followed from stage
to stage of the dialogue.
-/

namespace SmartblindsBle

open Foundation

/-- What of the session goes into the next application request. -/
structure SessionIds where
  hasSession : Bool
  nonce : Option Bytes
  counter : Int
  messageId : Int

def CallerView.ids (view : CallerView) : SessionIds where
  hasSession := view.hasSession
  nonce := view.nonce
  counter := view.counter
  messageId := view.messageId

namespace Dialogue

variable (primitives : CryptoPrimitives) (setup : ShadeSetup)

/-- The dialogue goes on from here: a step is possible, or the operation can end. -/
def GoesOn (operation : Operation) (dialogue : Dialogue) : Prop :=
  CanMove primitives setup dialogue ∨
    ∃ reply after, answer operation () dialogue = some (reply, after)

/-- A suspension point of a dialogue that is not stuck, and whose two sides agree
when nothing is under way. -/
structure Suspended (operation : Operation) (dialogue : Dialogue) : Prop where
  goesOn : GoesOn primitives setup operation dialogue
  agrees : dialogue.Quiet → dialogue.SequencesAgree

/-- Between two requests of a session with these ids. -/
structure Between (statusReads : Nat) (ids : SessionIds) (dialogue : Dialogue) : Prop where
  idle : dialogue.situation.Idle statusReads
  sameIds : dialogue.world.callerView.ids = ids

section Methods

variable {primitives : CryptoPrimitives} {setup : ShadeSetup}
variable {Result : Type}

/-- The code goes on from suspension to suspension, and ends as `post` says. -/
abbrev Converses (primitives : CryptoPrimitives) (setup : ShadeSetup) (code : Async Result)
    (post : Raises Result → Dialogue → Prop) (dialogue : Dialogue) : Prop :=
  code.Sustains (environment primitives setup) central (Suspended primitives setup) post dialogue

theorem background_callerView {step : Step} {before after : Dialogue}
    (moved : background primitives setup step before = some after) :
    after.world.callerView = before.world.callerView := by
  cases step with
  | work =>
      rcases Option.map_eq_some_iff.mp moved with ⟨world, stepped, rfl⟩
      exact World.background_callerView stepped
  | workWritten =>
      rcases Option.map_eq_some_iff.mp moved with ⟨world, stepped, rfl⟩
      exact World.background_callerView stepped
  | notify =>
      simp only [background] at moved
      split at moved
      · cases moved
      · rcases Option.map_eq_some_iff.mp moved with ⟨world, stepped, rfl⟩
        exact World.background_callerView stepped
  | write =>
      simp only [background] at moved
      split at moved
      · cases moved
      · cases moved
        rfl
  | respond =>
      rcases Option.map_eq_some_iff.mp moved with ⟨shade, _, rfl⟩
      rfl
  | emit =>
      rcases Option.map_eq_some_iff.mp moved with ⟨emitted, _, rfl⟩
      rfl

theorem await_converses {operation : Operation} {stage : Situation → Prop}
    {post : Raises operation.Reply → Dialogue → Prop} {dialogue : Dialogue} {view : CallerView}
    (stable : ∀ step before after, stage before.situation →
      background primitives setup step before = some after → stage after.situation)
    (entered : stage (enter operation dialogue).situation)
    (sameView : (enter operation dialogue).world.callerView = view)
    (suspended : ∀ later, stage later.situation → later.world.callerView = view →
      Suspended primitives setup operation later)
    (answers : ∀ later reply after, stage later.situation → later.world.callerView = view →
      answer operation () later = some (reply, after) → post reply after) :
    Converses primitives setup (TiltBleSession.await operation) post dialogue := by
  refine ⟨fun later => stage later.situation ∧ later.world.callerView = view, ?_,
    ⟨entered, sameView⟩, ?_, ?_⟩
  · intro step before after moved holds
    exact ⟨stable step before after holds.1 moved,
      (background_callerView moved).trans holds.2⟩
  · intro later holds
    exact suspended later holds.1 holds.2
  · intro later choice reply after holds answered
    exact answers later reply after holds.1 holds.2 answered

theorem Converses.andThen {Value : Type} {code : Async Value} {value : Value}
    {established : Dialogue → Prop} {rest : Value → Async Result}
    {post : Raises Result → Dialogue → Prop} {dialogue : Dialogue}
    (first : Converses primitives setup code
      (fun outcome later => outcome = .ok value ∧ established later) dialogue)
    (continues : ∀ later, established later →
      Converses primitives setup (rest value) post later) :
    Converses primitives setup (code >>= rest) post dialogue := by
  apply Coroutine.Sustains.bind
  apply Coroutine.Sustains.weaken first
  rintro outcome later ⟨rfl, holds⟩
  exact continues later holds

theorem modify_converses {transform : TiltBleSession → TiltBleSession} {rest : Unit → Async Result}
    {post : Raises Result → Dialogue → Prop} {dialogue : Dialogue}
    (continues : Converses primitives setup (rest ()) post
      { dialogue with world := dialogue.world.modifySession transform }) :
    Converses primitives setup (TiltBleSession.modify transform >>= rest) post dialogue :=
  continues

theorem record_converses {action : Action} {rest : Unit → Async Result}
    {post : Raises Result → Dialogue → Prop} {dialogue : Dialogue}
    (continues : Converses primitives setup (rest ()) post
      { dialogue with world := dialogue.world.record action }) :
    Converses primitives setup (TiltBleSession.record action >>= rest) post dialogue :=
  continues

theorem current_converses {rest : World → Async Result}
    {post : Raises Result → Dialogue → Prop} {dialogue : Dialogue}
    (continues : Converses primitives setup (rest dialogue.world) post dialogue) :
    Converses primitives setup (Coroutine.current >>= rest) post dialogue :=
  continues

theorem ofExcept_converses {Value : Type} {outcome : Raises Value} {value : Value}
    (isOk : outcome = .ok value) {rest : Value → Async Result}
    {post : Raises Result → Dialogue → Prop} {dialogue : Dialogue}
    (continues : Converses primitives setup (rest value) post dialogue) :
    Converses primitives setup (Coroutine.ofExcept outcome >>= rest) post dialogue := by
  rw [isOk]
  exact continues

theorem idle_suspended {operation : Operation} {statusReads : Nat} {dialogue : Dialogue}
    (idle : dialogue.situation.Idle statusReads)
    (answered : ∃ reply after, answer operation () dialogue = some (reply, after)) :
    Suspended primitives setup operation dialogue where
  goesOn := .inr answered
  agrees := idle_agrees idle

theorem sleep_converses {statusReads : Nat} {ids : SessionIds} {dialogue : Dialogue}
    (between : dialogue.Between statusReads ids) (seconds : Rat) :
    Converses primitives setup (TiltBleSession.await (.sleep seconds))
      (fun outcome later => outcome = .ok () ∧ later.Between statusReads ids) dialogue := by
  apply @await_converses primitives setup _ (Situation.Idle statusReads) _ dialogue
    dialogue.world.callerView
  · intro step before after idle moved
    exact idle_step idle moved
  · exact between.idle
  · rfl
  · intro later idle _
    exact idle_suspended idle ⟨.ok (), later, rfl⟩
  · intro later reply after idle sameView answered
    cases answered
    refine ⟨rfl, idle, ?_⟩
    rw [← between.sameIds, ← sameView]

/-! ## Sending a frame -/

theorem write_converses {exchange : Exchange primitives setup} {chunk : Bytes}
    {dialogue : Dialogue} {view : CallerView}
    (requested : exchange.Requested (enter (.writeGattChar chunk) dialogue).situation)
    (sameView : (enter (.writeGattChar chunk) dialogue).world.callerView = view) :
    Converses primitives setup (TiltBleSession.await (.writeGattChar chunk))
      (fun outcome later => outcome = .ok () ∧ exchange.Requested later.situation ∧
        later.world.callerView = view) dialogue := by
  apply await_converses _ requested sameView
  · intro later requestedLater _
    constructor
    · exact .inr ⟨.ok (), later, rfl⟩
    · exact fun quiet => absurd quiet (requested_not_quiet requestedLater)
  · intro later reply after requestedLater sameLater answered
    cases answered
    exact ⟨rfl, requestedLater, sameLater⟩
  · intro step before after requestedBefore moved
    exact requested_step requestedBefore moved

theorem requested_goesOn {exchange : Exchange primitives setup} {dialogue : Dialogue}
    (requested : exchange.Requested dialogue.situation)
    (hasSession : dialogue.world.hasSession = true) :
    GoesOn primitives setup (.waitAck dialogue.world.session.txSequence) dialogue := by
  cases requested with
  | sent acks waiter written =>
      apply Or.inl
      apply canMove_written
      rw [written]
      exact List.append_ne_nil_of_right_ne_nil _ (List.cons_ne_nil _ _)
  | received rest waiter notified positive bound noPart expected responds =>
      apply Or.inl
      apply canMove_notified hasSession responds.working
      rw [notified]
      exact List.cons_ne_nil _ _
  | acknowledged waiter =>
      have waiterHere : dialogue.world.session.ackWaiters dialogue.world.session.txSequence =
        some .acknowledged := waiter
      apply Or.inr
      simp only [answer, World.answer, World.complete, waiterHere]
      exact ⟨_, _, rfl⟩

theorem requested_answer {exchange : Exchange primitives setup} {dialogue after : Dialogue}
    {reply : Raises Unit} (requested : exchange.Requested dialogue.situation)
    (answered : answer (.waitAck dialogue.world.session.txSequence) () dialogue =
      some (reply, after)) :
    reply = .ok () ∧ after = dialogue ∧ exchange.Answering { dialogue.situation with
      txSequence := sequenceAfter dialogue.world.session.txSequence } := by
  have noAnswer (waiter : dialogue.world.session.ackWaiters dialogue.world.session.txSequence =
      some .pending) : False := by
    simp only [answer, World.answer, World.complete, waiter] at answered
    cases answered
  cases requested with
  | sent acks waiter => exact (noAnswer waiter).elim
  | received rest waiter => exact (noAnswer waiter).elim
  | acknowledged waiter noPart expected responds =>
      have waiterHere : dialogue.world.session.ackWaiters dialogue.world.session.txSequence =
        some .acknowledged := waiter
      simp only [answer, World.answer, World.complete, waiterHere] at answered
      cases answered
      exact ⟨rfl, rfl, noPart, expected.symm, responds.besides _ _ _⟩

theorem waitAck_converses {exchange : Exchange primitives setup} {dialogue : Dialogue}
    {view : CallerView} (requested : exchange.Requested dialogue.situation)
    (sameView : dialogue.world.callerView = view) (hasSession : view.hasSession = true) :
    Converses primitives setup (TiltBleSession.await (.waitAck view.txSequence))
      (fun outcome later => outcome = .ok () ∧
        exchange.Answering
          { later.situation with txSequence := sequenceAfter view.txSequence } ∧
        later.world.callerView = view) dialogue := by
  apply @await_converses primitives setup _ exchange.Requested _ dialogue view
  · intro step before after requestedBefore moved
    exact requested_step requestedBefore moved
  · exact requested
  · exact sameView
  · intro later requestedLater sameLater
    rw [← sameLater] at hasSession ⊢
    constructor
    · exact requested_goesOn requestedLater hasSession
    · exact fun quiet => absurd quiet (requested_not_quiet requestedLater)
  · intro later reply after requestedLater sameLater answered
    rw [← sameLater] at answered ⊢
    rcases requested_answer requestedLater answered with ⟨isOk, rfl, answering⟩
    exact ⟨isOk, answering, rfl⟩

/-- A chunk has been handed out, and its waiter is registered. -/
def handing (chunk : Bytes) (sequence : Nat) (dialogue : Dialogue) : Dialogue :=
  { dialogue with
    world := dialogue.world.handing chunk sequence
    uplink := dialogue.uplink ++ [chunk] }

theorem handing_requested {exchange : Exchange primitives setup} {dialogue : Dialogue}
    (idle : dialogue.situation.Idle exchange.readsBefore) :
    exchange.Requested (dialogue.handing
      (dataChunk dialogue.world.session.txSequence true exchange.request)
      dialogue.world.session.txSequence).situation := by
  have noNotification : dialogue.situation.notifications = [] := by
    by_contra notified
    exact idle.sends.more notified rfl
  have sends := idle.sends
  rw [noNotification] at sends
  refine .sent dialogue.uplink ?_ rfl noNotification
    ⟨idle.listening.noBuffer, idle.listening.waiting, idle.listening.noResponse⟩ idle.noRequest
    idle.reads idle.noPart idle.sameSequence.symm sends
  exact if_pos rfl

theorem attemptChunk_converses {exchange : Exchange primitives setup} {dialogue : Dialogue}
    {ids : SessionIds} (hasSession : ids.hasSession = true)
    (between : dialogue.Between exchange.readsBefore ids) (isLast : Bool) :
    Converses primitives setup
      (TiltBleSession.attemptChunk
        (dataChunk dialogue.world.session.txSequence true exchange.request)
        dialogue.world.session.txSequence isLast)
      (fun outcome later => outcome = .ok true ∧
        exchange.Answering { later.situation with
          txSequence := sequenceAfter dialogue.world.session.txSequence } ∧
        later.world.callerView.ids = ids) dialogue := by
  have viewSession : dialogue.world.callerView.hasSession = true := by
    rw [← between.sameIds] at hasSession
    exact hasSession
  apply modify_converses
  apply Coroutine.Sustains.tryFinally
  apply Coroutine.Sustains.tryCatch
  apply Coroutine.Sustains.bind
  apply (write_converses (handing_requested between.idle) rfl).weaken
  rintro outcome later ⟨rfl, requested, sameView⟩
  apply Coroutine.Sustains.bind
  apply (waitAck_converses requested sameView viewSession).weaken
  rintro outcome last ⟨rfl, answering, sameLast⟩
  refine ⟨rfl, ⟨answering.noPart, answering.sameSequence, answering.responds.besides _ _ _⟩, ?_⟩
  have sameIds := congrArg CallerView.ids sameLast
  exact sameIds.trans between.sameIds

/-- The wait for the reply ends with it. -/
theorem getResponse_converses {exchange : Exchange primitives setup} {dialogue : Dialogue}
    {ids : SessionIds} (hasSession : ids.hasSession = true)
    (answering : exchange.Answering dialogue.situation)
    (sameIds : dialogue.world.callerView.ids = ids) :
    Converses primitives setup (TiltBleSession.await .getResponse)
      (fun outcome later => outcome = .ok (.message exchange.reply) ∧
        later.Between exchange.readsAfter ids) dialogue := by
  apply @await_converses primitives setup _ exchange.Answering _ dialogue
    dialogue.world.callerView
  · intro step before after answeringBefore moved
    exact answering_step answeringBefore moved
  · exact answering
  · rfl
  · intro later answeringLater sameView
    have viewSession : later.world.callerView.hasSession = true := by
      rw [sameView]
      rw [← sameIds] at hasSession
      exact hasSession
    refine ⟨?_, answering_agrees answeringLater⟩
    rcases responds_canMove viewSession answeringLater.responds with moves | response
    · exact .inl moves
    · have responseHere : later.world.session.responseQueue = [.message exchange.reply] := response
      apply Or.inr
      simp only [answer, World.answer, World.complete, responseHere, Option.map_some]
      exact ⟨_, _, rfl⟩
  · intro later reply after answeringLater sameView answered
    have noAnswer (noResponse : later.world.session.responseQueue = []) : False := by
      simp only [answer, World.answer, World.complete, noResponse] at answered
      cases answered
    cases answeringLater.responds with
    | pending requested reads listening sends => exact (noAnswer listening.noResponse).elim
    | replying rest noRequest reads receives sends =>
        cases receives with
        | incomplete more parts working noResponse => exact (noAnswer noResponse).elim
        | completed whole noBuffer working noResponse => exact (noAnswer noResponse).elim
        | queued whole noBuffer waiting response =>
            have responseHere : later.world.session.responseQueue =
              [.message exchange.reply] := response
            simp only [answer, World.answer, World.complete, responseHere] at answered
            cases answered
            rw [whole] at sends
            refine ⟨rfl, ⟨⟨noBuffer, waiting, rfl⟩, noRequest, reads, answeringLater.noPart,
              answeringLater.sameSequence, sends⟩, ?_⟩
            rw [← sameIds]
            have same := congrArg CallerView.ids sameView
            exact same

theorem awaitResponse_converses {exchange : Exchange primitives setup} {dialogue : Dialogue}
    {ids : SessionIds} (hasSession : ids.hasSession = true)
    (answering : exchange.Answering dialogue.situation)
    (sameIds : dialogue.world.callerView.ids = ids) :
    Converses primitives setup TiltBleSession.awaitResponse
      (fun outcome later => outcome = .ok exchange.reply ∧
        later.Between exchange.readsAfter ids) dialogue := by
  apply Coroutine.Sustains.bind
  apply Coroutine.Sustains.tryCatch
  apply (getResponse_converses hasSession answering sameIds).weaken
  rintro outcome later ⟨rfl, between⟩
  exact ⟨rfl, between⟩

/-- A request of one chunk is answered. -/
theorem sendFrame_converses (exchange : Exchange primitives setup) {dialogue : Dialogue}
    {ids : SessionIds} (hasSession : ids.hasSession = true)
    (between : dialogue.Between exchange.readsBefore ids) :
    Converses primitives setup (TiltBleSession.sendFrame exchange.request true)
      (fun outcome later => outcome = .ok exchange.reply ∧
        later.Between exchange.readsAfter ids) dialogue := by
  have positive : 1 ≤ dialogue.world.session.txSequence := by
    have sameSequence : dialogue.world.session.txSequence = _ := between.idle.sameSequence
    rw [sameSequence]
    exact BleMessageAssembler.expectedSequence_pos _
  have bound : dialogue.world.session.txSequence ≤ maxSequence := by
    have sameSequence : dialogue.world.session.txSequence = _ := between.idle.sameSequence
    rw [sameSequence]
    exact BleMessageAssembler.expectedSequence_le _
  have noResponse : dialogue.world.session.responseQueue = [] := between.idle.listening.noResponse
  have cut := chunkForBle_single exchange.requestNonempty exchange.requestFits positive bound
  apply current_converses
  rw [if_pos (by rw [noResponse]; rfl)]
  apply ofExcept_converses cut
  rw [TiltBleSession.sendChunks_cons bound]
  apply Coroutine.Sustains.bind
  apply Coroutine.Sustains.bind
  apply (attemptChunk_converses hasSession between false).weaken
  rintro outcome later ⟨rfl, answering, sameIds⟩
  apply record_converses
  apply ofExcept_converses (nextSequence_eq positive bound)
  apply modify_converses
  exact awaitResponse_converses hasSession
    ⟨answering.noPart, answering.sameSequence, answering.responds.besides _ _ _⟩ sameIds

end Methods

end Dialogue

/-! ## The shade's replies -/

/-- What the shade is set up with can be told in the frames of the handshake. -/
structure ShadeSetup.Conforms (setup : ShadeSetup) : Prop where
  nonceLength : setup.nonce.length = 12
  fewVersions : setup.versions.length ≤ 255
  hasSupported : 1 ∈ setup.versions ∨ 2 ∈ setup.versions

namespace ShadeSetup

variable {primitives : CryptoPrimitives} {setup : ShadeSetup}

theorem handleRequest_cryptoFrame (command : CryptoCommand) (payload : Bytes)
    (statusReads : Nat) :
    setup.handleRequest primitives (cryptoFrame command payload) statusReads =
      (setup.handleCrypto primitives (cryptoFrame command payload)).map
        fun reply => (reply, statusReads) := by
  have header : ofBigEndian ((cryptoFrame command payload).take 2) &&& cryptoLayerFlag ≠ 0 := by
    rw [cryptoFrame, appendChecksum, cryptoHeader, List.append_assoc,
      List.take_left' (toBigEndian_length _ _)]
    decide
  exact if_pos header

/-- The request for the protocol versions. -/
def versionsExchange (primitives : CryptoPrimitives) (setup : ShadeSetup) (statusReads : Nat) :
    Exchange primitives setup where
  request := cryptoFrame .requestProtocolVersions []
  reply := versionsResponse setup.versions
  readsBefore := statusReads
  readsAfter := statusReads
  requestNonempty := cryptoFrame_nonempty _ _
  requestFits := by simp [maxBlePayload]
  replyNonempty := cryptoFrame_nonempty _ _
  handled := by
    rw [handleRequest_cryptoFrame, handleCrypto, parseCryptoResponse_cryptoFrame]
    rfl

/-- The selection of a protocol. -/
def selectionExchange (primitives : CryptoPrimitives) (setup : ShadeSetup) (selected : UInt8)
    (statusReads : Nat) : Exchange primitives setup where
  request := cryptoFrame .selectProtocolVersion [selected]
  reply := selectionResponse selected
  readsBefore := statusReads
  readsAfter := statusReads
  requestNonempty := cryptoFrame_nonempty _ _
  requestFits := by simp [maxBlePayload]
  replyNonempty := cryptoFrame_nonempty _ _
  handled := by
    rw [handleRequest_cryptoFrame, handleCrypto, parseCryptoResponse_cryptoFrame]
    rfl

/-- The request for the nonce. -/
def nonceExchange (primitives : CryptoPrimitives) (setup : ShadeSetup) (statusReads : Nat) :
    Exchange primitives setup where
  request := cryptoFrame .requestNonce []
  reply := nonceResponse primitives setup.nonce setup.key
  readsBefore := statusReads
  readsAfter := statusReads
  requestNonempty := cryptoFrame_nonempty _ _
  requestFits := by simp [maxBlePayload]
  replyNonempty := cryptoFrame_nonempty _ _
  handled := by
    rw [handleRequest_cryptoFrame, handleCrypto, parseCryptoResponse_cryptoFrame]
    rfl

/-- The reply to a status request with these ids. -/
def statusReply (primitives : CryptoPrimitives) (setup : ShadeSetup) (counter messageId : Int)
    (statusReads : Nat) : Bytes :=
  encodeAppResponse primitives ShadeCommand.getStatus.value
    (statusPayload (setup.statuses statusReads)) setup.key.bytes setup.nonce counter messageId

/-- A status request. -/
def statusExchange {counter messageId : Int} {frame : Bytes}
    (encoded : encodeReadRequest primitives ShadeCommand.getStatus.toInt setup.key.bytes
      setup.nonce counter messageId = .ok frame) (statusReads : Nat) :
    Exchange primitives setup where
  request := frame
  reply := setup.statusReply primitives counter messageId statusReads
  readsBefore := statusReads
  readsAfter := statusReads + 1
  requestNonempty := by
    have length := (encodeApplicationRequest_length (encodeReadRequest_eq_ok encoded)).1
    intro isEmpty
    rw [isEmpty] at length
    cases length
  requestFits := by
    have length := (encodeApplicationRequest_length (encodeReadRequest_eq_ok encoded)).1
    rw [length]
    decide
  replyNonempty := by
    rw [statusReply, encodeAppResponse]
    exact nofun
  handled := by
    have carries := encodeApplicationRequest_carries (encodeReadRequest_eq_ok encoded)
    rw [handleRequest, if_neg (not_not.mpr carries.header), handleApp, carries.decrypted]
    rfl

theorem Conforms.statusEncoded (conforms : setup.Conforms) (index : Nat) :
    ∃ frame, encodeReadRequest primitives ShadeCommand.getStatus.toInt setup.key.bytes
      setup.nonce (counterAt index) (messageIdAt index) = .ok frame := by
  apply (encodeReadRequest_exact primitives _ _ _ _ _).succeeds.mpr
  exact ⟨by decide, setup.key.length_eq, conforms.nonceLength, counterAt_inRange index,
    messageIdAt_inRange index⟩

theorem Conforms.selectedProtocol (conforms : setup.Conforms) :
    ∃ selected ∈ supportedCryptoProtocols,
      TiltBleSession.selectedProtocol (versionsResponse setup.versions) = .ok selected := by
  have count : setup.versions.length = (UInt8.ofNat setup.versions.length).toNat := by
    have few := conforms.fewVersions
    rw [UInt8.toNat_ofNat']
    omega
  have offers (selected : UInt8) (preferred : (2 ∈ setup.versions ∧ selected = 2) ∨
      (2 ∉ setup.versions ∧ 1 ∈ setup.versions ∧ selected = 1)) :
      TiltBleSession.selectedProtocol (versionsResponse setup.versions) = .ok selected := by
    apply selectedProtocol_eq_ok_iff.mpr
    refine ⟨_, setup.versions, [], count, ?_, preferred⟩
    rw [List.append_nil]
    rfl
  by_cases hasTwo : 2 ∈ setup.versions
  · exact ⟨2, by decide, offers 2 (.inl ⟨hasTwo, rfl⟩)⟩
  · have hasOne : 1 ∈ setup.versions := conforms.hasSupported.resolve_right hasTwo
    exact ⟨1, by decide, offers 1 (.inr ⟨hasTwo, hasOne, rfl⟩)⟩

theorem checkSelection_selectionResponse (selected : UInt8) :
    TiltBleSession.checkSelection (selectionResponse selected) selected = .ok () :=
  checkSelection_eq_ok_iff.mpr (.inl rfl)

theorem Conforms.verifiedNonce (conforms : setup.Conforms) :
    TiltBleSession.verifiedNonce primitives setup.key
      (nonceResponse primitives setup.nonce setup.key) = .ok setup.nonce :=
  verifiedNonce_eq_ok_iff.mpr ⟨conforms.nonceLength, rfl⟩

theorem Conforms.decoded (conforms : setup.Conforms) (index statusReads : Nat) :
    decodeApplicationResponse primitives
        (setup.statusReply primitives (counterAt index) (messageIdAt index) statusReads)
        setup.key.bytes setup.nonce .getStatus (messageIdAt index) (some (counterAt index)) =
      .ok ⟨.getStatus, messageIdAt index, counterAt index,
        statusPayload (setup.statuses statusReads)⟩ := by
  rw [statusReply, decodeApplicationResponse_encode setup.key.length_eq conforms.nonceLength
    (by decide) (counterAt_inRange index), if_pos rfl]
  exact decodePresentation_response nofun (messageIdAt_inRange index)

end ShadeSetup

/-! ## The session's calls -/

/-- `read_status`, as often as asked. -/
def TiltBleSession.readStatuses (primitives : CryptoPrimitives) (key : PairingKey) :
    Nat → Async (List ShadeStatus)
  | 0 => pure []
  | count + 1 => do
      let status ← readStatus primitives key
      let statuses ← readStatuses primitives key count
      pure (status :: statuses)

/-- `authenticate`, and then `read_status` as often as asked. -/
def TiltBleSession.authenticateAndRead (primitives : CryptoPrimitives) (key : PairingKey)
    (count : Nat) : Async (List ShadeStatus) := do
  authenticate primitives key
  readStatuses primitives key count

namespace Dialogue

/-- The ids of a session that has read the status so often. -/
def idsAfter (setup : ShadeSetup) (statusReads : Nat) : SessionIds where
  hasSession := true
  nonce := some setup.nonce
  counter := counterAt statusReads
  messageId := messageIdAt statusReads

variable {primitives : CryptoPrimitives} {setup : ShadeSetup}

theorem authenticate_converses (conforms : setup.Conforms) {dialogue : Dialogue}
    (between : dialogue.Between 0 ⟨true, none, 1, 1⟩) :
    Converses primitives setup (TiltBleSession.authenticate primitives setup.key)
      (fun outcome later => outcome = .ok () ∧ later.Between 0 (idsAfter setup 0)) dialogue := by
  rcases conforms.selectedProtocol with ⟨selected, supported, selects⟩
  apply (sleep_converses between _).andThen
  intro first between
  apply ofExcept_converses encodeProtocolVersionsRequest_eq
  apply (sendFrame_converses (setup.versionsExchange primitives 0) rfl between).andThen
  intro second between
  apply ofExcept_converses selects
  apply (sleep_converses between _).andThen
  intro third between
  rw [TiltBleSession.encodeProtocolSelection_eq supported]
  apply ofExcept_converses rfl
  apply (sendFrame_converses (setup.selectionExchange primitives selected 0) rfl between).andThen
  intro fourth between
  apply ofExcept_converses (ShadeSetup.checkSelection_selectionResponse selected)
  apply (sleep_converses between _).andThen
  intro fifth between
  apply ofExcept_converses encodeNonceRequest_eq
  apply (sendFrame_converses (setup.nonceExchange primitives 0) rfl between).andThen
  intro sixth between
  apply ofExcept_converses conforms.verifiedNonce
  apply modify_converses
  apply sleep_converses
  refine ⟨between.idle, ?_⟩
  exact congrArg (fun ids : SessionIds => { ids with nonce := some setup.nonce }) between.sameIds

theorem requireNonce_converses {dialogue : Dialogue} {nonce : Bytes}
    (authenticated : dialogue.world.session.nonce = some nonce) :
    Converses primitives setup TiltBleSession.requireNonce
      (fun outcome later => outcome = .ok nonce ∧ later = dialogue) dialogue := by
  apply current_converses
  rw [authenticated]
  exact ⟨rfl, rfl⟩

/-- The ids of the next request are taken. -/
def takingIds (dialogue : Dialogue) : Dialogue :=
  { dialogue with
    world := dialogue.world.modifySession fun session => { session with
      counter := TiltBleSession.counterAfter session.counter
      messageId := TiltBleSession.messageIdAfter session.messageId } }

theorem takeApplicationIds_converses (dialogue : Dialogue) :
    Converses primitives setup TiltBleSession.takeApplicationIds
      (fun outcome later =>
        outcome = .ok (dialogue.world.session.counter, dialogue.world.session.messageId) ∧
        later = dialogue.takingIds) dialogue :=
  ⟨rfl, rfl⟩

theorem Between.takingIds {statusReads : Nat} {dialogue : Dialogue}
    (between : dialogue.Between statusReads (idsAfter setup statusReads)) (action : Action) :
    ({ dialogue.takingIds with world := dialogue.takingIds.world.record action }).Between
      statusReads (idsAfter setup (statusReads + 1)) := by
  refine ⟨between.idle, ?_⟩
  have advanced := congrArg (fun ids : SessionIds => { ids with
    counter := TiltBleSession.counterAfter ids.counter
    messageId := TiltBleSession.messageIdAfter ids.messageId }) between.sameIds
  simp only [idsAfter, counterAfter_counterAt, messageIdAfter_messageIdAt] at advanced
  exact advanced

/-- A status request takes the next ids, and the shade answers it. -/
theorem applicationRequest_converses (conforms : setup.Conforms) {dialogue : Dialogue}
    {statusReads : Nat} (between : dialogue.Between statusReads (idsAfter setup statusReads)) :
    Converses primitives setup
      (TiltBleSession.applicationRequest primitives setup.key .getStatus true)
      (fun outcome later => outcome = .ok ⟨.getStatus, messageIdAt statusReads,
          counterAt statusReads, statusPayload (setup.statuses statusReads)⟩ ∧
        later.Between (statusReads + 1) (idsAfter setup (statusReads + 1))) dialogue := by
  have nonce : dialogue.world.session.nonce = some setup.nonce :=
    congrArg SessionIds.nonce between.sameIds
  have counter : dialogue.world.session.counter = counterAt statusReads :=
    congrArg SessionIds.counter between.sameIds
  have messageId : dialogue.world.session.messageId = messageIdAt statusReads :=
    congrArg SessionIds.messageId between.sameIds
  have encodable : ∃ frame, encodeReadRequest primitives ShadeCommand.getStatus.toInt
      setup.key.bytes setup.nonce (counterAt statusReads) (messageIdAt statusReads) = .ok frame :=
    conforms.statusEncoded statusReads
  rcases encodable with ⟨frame, encoded⟩
  apply (requireNonce_converses nonce).andThen
  intro same isSame
  rw [isSame]
  apply (takeApplicationIds_converses dialogue).andThen
  rintro taken rfl
  apply record_converses
  rw [counter, messageId]
  apply ofExcept_converses encoded
  apply (sendFrame_converses (ShadeSetup.statusExchange encoded statusReads) rfl
    (between.takingIds _)).andThen
  intro later between
  have decoded := @ShadeSetup.Conforms.decoded primitives setup conforms statusReads statusReads
  exact ⟨decoded, between⟩

theorem readStatus_converses (conforms : setup.Conforms) {dialogue : Dialogue}
    {statusReads : Nat} (between : dialogue.Between statusReads (idsAfter setup statusReads)) :
    Converses primitives setup (TiltBleSession.readStatus primitives setup.key)
      (fun outcome later => outcome = .ok (setup.statuses statusReads) ∧
        later.Between (statusReads + 1) (idsAfter setup (statusReads + 1))) dialogue := by
  apply Coroutine.Sustains.tryCatch
  apply Coroutine.Sustains.bind
  apply (applicationRequest_converses conforms between).andThen
  intro later between
  have parsed := parseStatus_statusPayload (setup.statuses statusReads) (counterAt statusReads)
    (messageIdAt statusReads)
  rw [parsed]
  exact ⟨rfl, between.idle, between.sameIds⟩

theorem readStatuses_converses (conforms : setup.Conforms) (count : Nat) {dialogue : Dialogue}
    {statusReads : Nat} (between : dialogue.Between statusReads (idsAfter setup statusReads)) :
    Converses primitives setup (TiltBleSession.readStatuses primitives setup.key count)
      (fun outcome later =>
        outcome = .ok ((List.range count).map fun index => setup.statuses (statusReads + index)) ∧
        later.Between (statusReads + count) (idsAfter setup (statusReads + count))) dialogue := by
  induction count generalizing dialogue statusReads with
  | zero => exact ⟨rfl, between⟩
  | succ count induction =>
      apply (readStatus_converses conforms between).andThen
      intro first between
      apply (induction between).andThen
      intro last between
      have sameRest : (fun index => setup.statuses (statusReads + 1 + index)) =
          (fun index => setup.statuses (statusReads + index)) ∘ Nat.succ := by
        funext index
        exact congrArg setup.statuses (Nat.succ_add_eq_add_succ statusReads index)
      constructor
      · rw [List.range_succ_eq_map, List.map_cons, List.map_map, ← sameRest]
        rfl
      · rw [Nat.succ_add_eq_add_succ] at between
        exact between

/-! ## All runs -/

/-- The dialogue of a session that authenticates and reads the status `count` times,
after these events. -/
def conversation (primitives : CryptoPrimitives) (setup : ShadeSetup) (count : Nat)
    (events : List (Event Step Unit)) :
    Option (Task Dialogue Operation Operation.Reply PythonException (List ShadeStatus)) :=
  (environment primitives setup).run
    ((environment primitives setup).settle
      ((TiltBleSession.authenticateAndRead primitives setup.key count).within central) initial)
    events

/-- At this moment of the dialogue nothing has gone wrong. -/
structure Agrees (primitives : CryptoPrimitives) (setup : ShadeSetup) (count : Nat)
    (task : Task Dialogue Operation Operation.Reply PythonException (List ShadeStatus)) :
    Prop where
  /-- The calls have not ended, or each has returned the status that the shade had. -/
  returns : ∀ outcome, task.code.outcome? = some outcome →
    outcome = .ok ((List.range count).map setup.statuses)
  /-- Before all calls have returned, the dialogue is not stuck. -/
  goesOn : task.code.outcome? = none →
    ∃ event next, (environment primitives setup).step task event = some next
  sequences : task.state.Quiet → task.state.SequencesAgree

theorem initial_between : initial.Between 0 ⟨true, none, 1, 1⟩ where
  idle := {
    listening := ⟨rfl, rfl, rfl⟩
    noRequest := rfl
    reads := rfl
    noPart := rfl
    sameSequence := rfl
    sends := .ready (.inl ⟨rfl, rfl⟩) rfl rfl rfl rfl }
  sameIds := rfl

/-- In every interleaving the calls return the shade's statuses, the dialogue is never
stuck before that, and the sequence numbers agree whenever nothing is under way. -/
theorem conversation_agrees (primitives : CryptoPrimitives) (setup : ShadeSetup)
    (conforms : setup.Conforms) (count : Nat) (events : List (Event Step Unit))
    (task : Task Dialogue Operation Operation.Reply PythonException (List ShadeStatus))
    (reached : conversation primitives setup count events = some task) :
    Agrees primitives setup count task := by
  have converses : Converses primitives setup
      (TiltBleSession.authenticateAndRead primitives setup.key count)
      (fun outcome later => outcome = .ok ((List.range count).map setup.statuses) ∧
        later.situation.Idle count) initial := by
    apply (authenticate_converses conforms initial_between).andThen
    intro first between
    apply Coroutine.Sustains.weaken (readStatuses_converses conforms count between)
    intro outcome later ends
    simp only [Nat.zero_add] at ends
    exact ⟨ends.1, ends.2.idle⟩
  have stable (outcome : Raises (List ShadeStatus)) :
      (environment primitives setup).Stable fun later =>
        outcome = .ok ((List.range count).map setup.statuses) ∧ later.situation.Idle count := by
    intro step before after moved holds
    exact ⟨holds.1, idle_step holds.2 moved⟩
  rcases task with ⟨code, state⟩
  rcases converses.run stable reached with
    ⟨outcome, isDone, isOk, idle⟩ | ⟨operation, resume, holds, waits, _, holdsHere, suspended, _⟩
  · cases isDone
    constructor
    · intro ended same
      cases same
      exact isOk
    · nofun
    · exact idle_agrees idle
  · cases waits
    have suspendedHere := suspended state holdsHere
    constructor
    · nofun
    · intro _
      rcases suspendedHere.goesOn with ⟨step, after, moved⟩ | ⟨reply, after, answered⟩
      · refine ⟨.background step, ⟨(Coroutine.await operation resume).within central, after⟩, ?_⟩
        exact Option.map_eq_some_iff.mpr ⟨after, moved, rfl⟩
      · refine ⟨.resume (),
          (environment primitives setup).settle ((resume reply).within central) after, ?_⟩
        exact Option.map_eq_some_iff.mpr ⟨(reply, after), answered, rfl⟩
    · exact suspendedHere.agrees

/-! A dialogue in which every step is taken as soon as it can be. -/

/-- A request of one chunk, and a reply of so many chunks. -/
def exchangeEvents (replyChunks : Nat) : List (Event Step Unit) :=
  [.resume (), .background .write, .background .notify, .background .work, .resume (),
    .background .respond] ++
    (List.replicate replyChunks [.background .emit, .background .notify, .background .work,
      .background .workWritten, .background .write]).flatten ++ [.resume ()]

/-- The handshake of a shade that offers two protocols, and two status requests. -/
def conversationEvents : List (Event Step Unit) :=
  [.resume ()] ++ exchangeEvents 1 ++ [.resume ()] ++ exchangeEvents 1 ++ [.resume ()] ++
    exchangeEvents 3 ++ [.resume ()] ++ exchangeEvents 1 ++ exchangeEvents 1

/-- A shade that offers the protocols 1 and 2 and is closed. -/
def sampleSetup : ShadeSetup := ⟨.zero, zeroNonce, [1, 2], fun _ => .closed⟩

theorem sampleSetup_conforms : sampleSetup.Conforms where
  nonceLength := rfl
  fewVersions := by decide
  hasSupported := .inl (by decide)

theorem conversation_agrees_closed : ∃ task,
    conversation .constant sampleSetup 2 conversationEvents = some task ∧
      task.code.outcome? = some (.ok [.closed, .closed]) ∧
      Agrees .constant sampleSetup 2 task := by
  have observed : (conversation .constant sampleSetup 2 conversationEvents).map
      (fun task => task.code.outcome?) = some (some (.ok [.closed, .closed])) := by
    decide +kernel
  rcases Option.map_eq_some_iff.mp observed with ⟨task, reached, ended⟩
  exact ⟨task, reached, ended, conversation_agrees .constant sampleSetup sampleSetup_conforms 2
    conversationEvents task reached⟩

end Dialogue

end SmartblindsBle
