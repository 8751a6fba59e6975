import SmartblindsBle.Tilt.Counters

/-! # Fresh replies

The network may keep the replies of the shade back, repeat them and change
their order. While the counter has not wrapped, a call accepts no reply but one
to its own request.
-/

namespace SmartblindsBle

open Foundation

/-! ## The shade and the network -/

/-- A shade that answers requests with application responses under their ids. -/
structure ConformingShade (primitives : CryptoPrimitives) (key : PairingKey) (nonce : Bytes) where
  /-- The replies to the request with this index. -/
  replies : (index : Nat) → ApplicationRequest → Bytes → Prop
  encoded : ∀ {index request reply}, replies index request reply → ∃ command payload,
    reply = encodeAppResponse primitives command payload key.bytes nonce request.counter
      request.messageId

section Shade

variable {primitives : CryptoPrimitives} {key : PairingKey} {nonce : Bytes}

/-- Any of its replies to the requests so far may arrive. -/
def ConformingShade.network (shade : ConformingShade primitives key nonce) : Network where
  message history reply := ∃ index request,
    (applicationRequests history)[index]? = some request ∧ shade.replies index request reply
  mono := by
    rintro before _ reply ⟨more, rfl⟩ ⟨index, request, found, isReply⟩
    refine ⟨index, request, ?_, isReply⟩
    rwa [applicationRequests_append,
      List.getElem?_append_left (List.getElem?_eq_some_iff.mp found).1]

variable (shade : ConformingShade primitives key nonce)

/-- The call that is about to end took a single message after its request, and
that message is the response of the shade to this very request. -/
def AnsweredBy (before : List Action) (request : ApplicationRequest)
    (response : ApplicationResponse) : Prop :=
  ∃ earlier actions reply,
    before = earlier ++
      .requested request.counter request.messageId request.frame :: actions ∧
    callOutcomes actions = [] ∧ receivedFrames actions = [reply] ∧
    shade.replies (applicationRequests earlier).length request reply ∧
    reply = encodeAppResponse primitives response.command.value response.payload key.bytes nonce
      request.counter request.messageId

/-- A call that returns rests on the response to its own request. -/
def FreshOutcome (before : List Action) : Action → Prop
  | .statusRead (.ok status) => ∃ request response,
      AnsweredBy shade before request response ∧ parseStatus response = .ok status
  | .positionSet (.ok ()) => ∃ request response, AnsweredBy shade before request response
  | _ => True

variable {shade} {history : List Action}

theorem freshOutcome_other {action : Action} (notOutcome : action.isCallOutcome = false)
    (before : List Action) : FreshOutcome shade before action := by
  cases action with
  | statusRead outcome => cases notOutcome
  | positionSet outcome => cases notOutcome
  | _ => trivial

theorem freshOutcome_append (every : EveryEntry (FreshOutcome shade) history)
    {actions : List Action} (noOutcomes : callOutcomes actions = []) :
    EveryEntry (FreshOutcome shade) (history ++ actions) := by
  apply every.append
  intro action member
  have notOutcome := List.filter_eq_nil_iff.mp noOutcomes action member
  exact freshOutcome_other (by simpa using notOutcome)

end Shade

/-! ## The calls of a conversation -/

section Calls

variable {primitives : CryptoPrimitives} {key : PairingKey} {nonce : Bytes}
variable {shade : ConformingShade primitives key nonce} {start later : CallerView}
variable {Result : Type} {call : SessionCall primitives key Result}

/-- The requests carry the counters of their positions. -/
def CountersMatch (requests : List ApplicationRequest) : Prop :=
  ∀ index request, requests[index]? = some request → request.counter = counterAt index

theorem CountersMatch.concat {requests : List ApplicationRequest} (numbers : CountersMatch requests)
    (messageId : Int) (frame : Raises Bytes) :
    CountersMatch (requests ++ [⟨counterAt requests.length, messageId, frame⟩]) := by
  intro index request found
  by_cases earlier : index < requests.length
  · rw [List.getElem?_append_left earlier] at found
    exact numbers index request found
  · have inside := (List.getElem?_eq_some_iff.mp found).1
    rw [List.length_append, List.length_singleton] at inside
    have isLast : index = requests.length := by omega
    subst isLast
    rw [List.getElem?_append_right (Nat.le_refl _), Nat.sub_self] at found
    cases found
    rfl

/-- The requests so far are numbered, and while the counter has not wrapped every
outcome is fresh. -/
structure OutcomesFresh (shade : ConformingShade primitives key nonce) (view : CallerView) :
    Prop where
  numbered : Numbered nonce (applicationRequests view.history).length view
  counters : CountersMatch (applicationRequests view.history)
  outcomes : (applicationRequests view.history).length < 0x7FFF →
    EveryEntry (FreshOutcome shade) view.history

/-- The decoder accepts a reply to another request only if the counter has wrapped. -/
theorem decodeApplicationResponse_reply {command : ShadeCommand} {request : ApplicationRequest}
    {reply : Bytes} {response : ApplicationResponse} {expectedId expectedCounter : Int}
    (isReply : ∃ command payload, reply = encodeAppResponse primitives command payload key.bytes
      nonce request.counter request.messageId)
    (nonceLength : nonce.length = 12) (allowed : command ∈ runtimeCommands)
    (inRange : 1 ≤ request.counter ∧ request.counter ≤ maxCounter)
    (accepted : decodeApplicationResponse primitives reply key.bytes nonce command expectedId
      (some expectedCounter) = .ok response) :
    expectedCounter = request.counter ∧
      reply = encodeAppResponse primitives response.command.value response.payload key.bytes
        nonce request.counter request.messageId := by
  rcases isReply with ⟨commandByte, payload, rfl⟩
  rw [decodeApplicationResponse_encode key.length_eq nonceLength allowed inRange] at accepted
  split at accepted
  · next same =>
      rcases decodePresentation_eq_ok accepted with ⟨sameCommand, rfl⟩
      exact ⟨same, by rw [sameCommand]⟩
  · cases accepted

theorem Sent.answered_history {network : Network} {frame reply : Bytes} {attempts : Nat}
    (sent : Sent network frame attempts start (.ok reply) later) :
    ∃ chunks, later.history = start.history ++ (chunks ++ [.received reply]) ∧
      network.message (start.history ++ chunks) reply ∧
      callOutcomes chunks = [] ∧ applicationRequests chunks = [] ∧ receivedFrames chunks = [] := by
  cases sent with
  | answered copies positive bound reply admitted =>
      refine ⟨List.replicate copies (.handed (start.chunkOf frame)) ++
        [.confirmed start.txSequence], ?_, ?_, ?_, ?_, ?_⟩
      · simp [CallerView.hand, CallerView.confirm, CallerView.record]
      · rw [← List.append_assoc]
        exact admitted
      · simp [callOutcomes, Action.isCallOutcome]
      · simp [applicationRequests, Action.applicationRequest?]
      · simp [receivedFrames, Action.receivedFrame?]

/-- A response that was accepted answers the request of the same call. -/
theorem OutcomesFresh.answered {response : ApplicationResponse}
    (fresh : OutcomesFresh shade start) (isCall : TiltBleSession.IsCall call)
    (exchanged : Exchanged shade.network call start (.ok response) later)
    (few : (applicationRequests later.history).length < 0x7FFF) :
    ∃ request, AnsweredBy shade later.history request response := by
  have allowed : call.command ∈ runtimeCommands := by
    cases isCall with
    | readStatus => exact (by decide : ShadeCommand.getStatus ∈ runtimeCommands)
    | setPosition positionPercent =>
        exact (by decide : ShadeCommand.setPosition ∈ runtimeCommands)
  generalize isResponse : (Except.ok response : Raises ApplicationResponse) = ended at exchanged
  cases exchanged with
  | unauthenticated isNone isOrdinary => cases isResponse
  | unencoded isNonce encoded => cases isResponse
  | @sent other frame outcome later isNonce encoded sent =>
      cases fresh.numbered.nonce.symm.trans isNonce
      cases outcome with
      | error error => cases isResponse
      | ok reply =>
      rcases call.encodes nonce _ _ frame encoded with ⟨_, _, encrypted⟩
      have nonceLength := (encodeApplicationRequest_eq_ok encrypted).2.1
      rcases sent.answered_history with
        ⟨chunks, grown, ⟨index, request, found, isReply⟩, noOutcomes, noRequests, noReplies⟩
      have requested := fresh.numbered.request (.ok frame)
      rw [grown, applicationRequests_append, applicationRequests_append, noRequests, requested.2]
        at few
      rw [applicationRequests_append, noRequests, List.append_nil, requested.2] at found
      have numbered := fresh.counters.concat _ _ index request found
      rcases decodeApplicationResponse_reply (shade.encoded isReply) nonceLength allowed
        (numbered ▸ counterAt_inRange index) isResponse.symm with ⟨sameCounter, isEncoded⟩
      -- fewer than 0x7FFF requests have pairwise different counters
      have isLast : index = (applicationRequests start.history).length := by
        rw [fresh.numbered.counter, numbered, counterAt_eq_iff] at sameCounter
        have inside := (List.getElem?_eq_some_iff.mp found).1
        simp only [List.length_append, List.length_singleton] at inside few
        omega
      subst isLast
      rw [List.getElem?_append_right (Nat.le_refl _), Nat.sub_self] at found
      cases found
      refine ⟨_, start.history, chunks ++ [.received reply], reply, ?_, ?_, ?_, isReply, isEncoded⟩
      · rw [grown, ← fresh.numbered.counter, ← fresh.numbered.messageId]
        exact List.append_assoc _ _ _
      · rw [callOutcomes_append, noOutcomes]
        rfl
      · rw [receivedFrames_append, noReplies]
        rfl

theorem freshOutcome_exchanging (every : EveryEntry (FreshOutcome shade) start.history)
    (exchanging : Exchanging call start later) :
    EveryEntry (FreshOutcome shade) later.history := by
  have requested : ∀ frame, EveryEntry (FreshOutcome shade) (start.request frame).history :=
    fun frame => freshOutcome_append every rfl
  cases exchanging with
  | idle => exact every
  | unencoded isNonce encoded => exact requested _
  | sending isNonce encoded sends =>
      refine sends.preserves (fun view => EveryEntry (FreshOutcome shade) view.history)
        (requested _) ?_ ?_ ?_
      · exact fun copies _ holds => freshOutcome_append holds rfl
      · exact fun view holds => freshOutcome_append holds rfl
      · exact fun view reply holds => freshOutcome_append holds rfl

theorem OutcomesFresh.exchanging (fresh : OutcomesFresh shade start)
    (exchanging : Exchanging call start later)
    (few : (applicationRequests later.history).length < 0x7FFF) :
    EveryEntry (FreshOutcome shade) later.history := by
  refine freshOutcome_exchanging (fresh.outcomes ?_) exchanging
  rcases fresh.numbered.exchanging exchanging with rfl | requested
  · exact few
  · rw [requested.2, List.length_append] at few
    omega

theorem OutcomesFresh.noted {response : Raises ApplicationResponse} {exchanged : CallerView}
    (fresh : OutcomesFresh shade start) (isCall : TiltBleSession.IsCall call)
    (exchange : Exchanged shade.network call start response exchanged)
    (few : (applicationRequests exchanged.history).length < 0x7FFF) :
    FreshOutcome shade exchanged.history (call.note (response.bind call.interpret)) := by
  have answered : ∀ {value}, response = .ok value →
      ∃ request, AnsweredBy shade exchanged.history request value := by
    rintro value rfl
    exact fresh.answered isCall exchange few
  cases response with
  | error error => cases isCall <;> trivial
  | ok response =>
      rcases answered rfl with ⟨request, isAnswer⟩
      cases isCall with
      | readStatus =>
          change FreshOutcome shade _ (.statusRead (parseStatus response))
          cases parsed : parseStatus response with
          | error error => trivial
          | ok status => exact ⟨request, response, isAnswer, parsed⟩
      | setPosition positionPercent => exact ⟨request, response, isAnswer⟩

theorem OutcomesFresh.callEnds {outcome : Raises Result} (fresh : OutcomesFresh shade start)
    (isCall : TiltBleSession.IsCall call)
    (ended : CallEnds shade.network call start outcome later) : OutcomesFresh shade later := by
  have requested := fresh.numbered.callEnds ended
  rcases ended with ⟨response, exchanged, exchange, rfl, rfl⟩
  refine ⟨?_, ?_, fun few => ?_⟩
  · rw [requested.2, List.length_append]
    exact requested.1
  · rw [requested.2]
    exact fresh.counters.concat _ _
  · have fewEarlier : (applicationRequests exchanged.history).length < 0x7FFF := by
      rw [requested.2] at few
      rwa [(fresh.numbered.exchanged exchange).2]
    exact (fresh.exchanging exchange.exchanging fewEarlier).concat
      (fresh.noted isCall exchange fewEarlier)

theorem OutcomesFresh.calling (fresh : OutcomesFresh shade start)
    (isCall : TiltBleSession.IsCall call)
    (calling : Calling shade.network call start later)
    (few : (applicationRequests later.history).length < 0x7FFF) :
    EveryEntry (FreshOutcome shade) later.history := by
  rcases calling with exchanging | ⟨outcome, ended⟩
  · exact fresh.exchanging exchanging few
  · exact (fresh.callEnds isCall ended).outcomes few

/-- A stale reply is never taken for a fresh one. In every run of fewer than 0x7FFF
requests, whatever the network does to the replies of the shade, a call returns
only on the reply to its own request. -/
theorem performAll_outcomesFresh (primitives : CryptoPrimitives) (key : PairingKey)
    (nonce : Bytes) (shade : ConformingShade primitives key nonce)
    (requests : List SessionRequest) (world : World)
    (authenticated : world.IsAuthenticated nonce) (admits : shade.network.Admits world)
    (events : List SessionEvent)
    (task : Task World Operation Operation.Reply PythonException Unit)
    (within : eventLoop.StaysWithin shade.network.Admits
      (eventLoop.settle (TiltBleSession.performAll primitives key requests) world) events)
    (reached : eventLoop.run
      (eventLoop.settle (TiltBleSession.performAll primitives key requests) world) events =
      some task)
    (few : (applicationRequests task.state.callerView.history).length < 0x7FFF) :
    EveryEntry (FreshOutcome shade) task.state.callerView.history := by
  have start : OutcomesFresh shade world.callerView := by
    refine ⟨?_, ?_, fun _ => ?_⟩
    · rw [authenticated.noRequests]
      exact authenticated.numbered
    · rw [authenticated.noRequests]
      exact fun _ _ => nofun
    · exact freshOutcome_append EveryEntry.nil authenticated.noOutcomes
  have behaves := TiltBleSession.performAll_behaves
    (fun view (fresh : OutcomesFresh shade view) => fresh.outcomes)
    (fun isCall fresh calling => fresh.calling isCall calling)
    (fun isCall fresh ended => fresh.callEnds isCall ended)
    requests start
  exact (behaves.reached_within admits within reached).1 few

end Calls

/-! ## A shade that reports one status -/

private def closedReply (request : ApplicationRequest) : Bytes :=
  encodeAppResponse .constant ShadeCommand.getStatus.value (statusPayload ShadeStatus.closed)
    PairingKey.zero.bytes zeroNonce request.counter request.messageId

/-- It answers every request by the status `closed`. -/
def ConformingShade.closed : ConformingShade .constant .zero zeroNonce where
  replies _ request reply := reply = closedReply request
  encoded := fun same => ⟨_, _, same⟩

/-- The queue holds nothing but replies to requests that were made. -/
private def HoldsClosedReplies (world : World) : Prop :=
  ∀ item ∈ world.session.responseQueue,
    ∃ request ∈ applicationRequests world.callerView.history, item = .message (closedReply request)

private instance : DecidablePred HoldsClosedReplies := fun _ => List.decidableBAll _ _

private theorem holdsClosedReplies_admits (world : World) (holds : HoldsClosedReplies world) :
    ConformingShade.closed.network.Admits world := by
  intro frame member
  rcases holds _ member with ⟨request, made, isReply⟩
  rcases List.getElem?_of_mem made with ⟨index, found⟩
  exact ⟨index, request, found, ResponseItem.message.inj isReply⟩

private def threeReads : Async Unit :=
  TiltBleSession.performAll .constant .zero [.readStatus, .readStatus, .readStatus]

/-- The first read times out, and its reply arrives during the second one. -/
private def staleReplyEvents : List SessionEvent :=
  acknowledgeChunk 1 ++ [.resume .timedOut] ++
    exchangeFrame 2 (closedReply ⟨1, 1, .ok []⟩) 1 ++
    exchangeFrame 3 (closedReply ⟨3, 3, .ok []⟩) 2

/-- The second read does not take the late reply for its own, and the third one returns on the
reply to the third request. -/
theorem performAll_outcomesFresh_stale : ∃ events task before request response,
    eventLoop.run (eventLoop.settle threeReads (World.authenticated zeroNonce)) events =
        some task ∧
      task.state.callerView.history = before ++ [.statusRead (.ok .closed)] ∧
      callOutcomes before =
        [.statusRead (.error (.tiltBleTimeout "Timed out waiting for Tilt response.")),
          .statusRead (.error (.tiltProtocolError
            "Application response counter does not match request."))] ∧
      receivedFrames before = [closedReply ⟨1, 1, .ok []⟩, closedReply ⟨3, 3, .ok []⟩] ∧
      AnsweredBy ConformingShade.closed before request response := by
  have observed : (observe threeReads (World.authenticated zeroNonce) staleReplyEvents).map
        (fun seen => (seen.1.getLast?, callOutcomes seen.1.dropLast,
          receivedFrames seen.1.dropLast, (applicationRequests seen.1).length)) =
      some (some (.statusRead (.ok .closed)),
        [.statusRead (.error (.tiltBleTimeout "Timed out waiting for Tilt response.")),
          .statusRead (.error (.tiltProtocolError
            "Application response counter does not match request."))],
        [closedReply ⟨1, 1, .ok []⟩, closedReply ⟨3, 3, .ok []⟩], 3) := by
    decide +kernel
  have within : eventLoop.StaysWithin HoldsClosedReplies
      (eventLoop.settle threeReads (World.authenticated zeroNonce)) staleReplyEvents := by
    decide +kernel
  rcases Option.map_eq_some_iff.mp observed with ⟨⟨history, outcome⟩, seen, same⟩
  rcases observe_eq_some seen with ⟨task, reached, rfl, _⟩
  simp only [Prod.mk.injEq] at same
  rcases same with ⟨last, outcomes, received, three⟩
  have split := List.dropLast_append_getLast? _ last
  have fresh := performAll_outcomesFresh .constant .zero zeroNonce .closed _
    (World.authenticated zeroNonce) (World.authenticated_isAuthenticated zeroNonce) nofun _ task
    (within.mono eventLoop holdsClosedReplies_admits) reached (by rw [three]; decide) _ _ []
    split.symm
  rcases fresh with ⟨request, response, answered, _⟩
  exact ⟨_, task, _, request, response, reached, split.symm, outcomes, received, answered⟩

end SmartblindsBle
