import SmartblindsBle.Tilt.Exchange

/-! # The stages of a dialogue

Between two requests a dialogue is idle; then a request is under way, and then its
reply is. No step of the worker, the links or the shade leaves a stage, and while
the caller's task cannot go on, such a step is possible.
-/

namespace SmartblindsBle

open Foundation

/-- Between two requests; the last acknowledgement may not have reached the shade. -/
structure Situation.Idle (statusReads : Nat) (situation : Situation) : Prop where
  listening : situation.Listening
  noRequest : situation.shade.requests = []
  reads : situation.shade.statusReads = statusReads
  noPart : situation.shade.assembler.buffer = []
  sameSequence : situation.txSequence = situation.shade.assembler.expectedSequence
  sends : Sends [] situation.assembler.expectedSequence situation.uplink
    situation.notifications situation.shade

namespace Exchange

variable {primitives : CryptoPrimitives} {setup : ShadeSetup}

/-- The request has been handed out, and the session's task has not gone on from its
acknowledgement. -/
inductive Requested (exchange : Exchange primitives setup) (situation : Situation) : Prop
  | sent (acks : List Bytes)
      (waiter : situation.ackWaiters situation.txSequence = some .pending)
      (written : situation.uplink =
        acks ++ [dataChunk situation.txSequence true exchange.request])
      (noNotification : situation.notifications = [])
      (listening : situation.Listening)
      (noRequest : situation.shade.requests = [])
      (reads : situation.shade.statusReads = exchange.readsBefore)
      (noPart : situation.shade.assembler.buffer = [])
      (expected : situation.shade.assembler.expectedSequence = situation.txSequence)
      (sends : Sends [] situation.assembler.expectedSequence acks [] situation.shade)
  | received (rest : List Bytes)
      (waiter : situation.ackWaiters situation.txSequence = some .pending)
      (notified : situation.notifications = bleAck situation.txSequence :: rest)
      (positive : 1 ≤ situation.txSequence) (bound : situation.txSequence ≤ maxSequence)
      (noPart : situation.shade.assembler.buffer = [])
      (expected : situation.shade.assembler.expectedSequence = sequenceAfter situation.txSequence)
      (responds : exchange.Responds rest situation)
  | acknowledged
      (waiter : situation.ackWaiters situation.txSequence = some .acknowledged)
      (noPart : situation.shade.assembler.buffer = [])
      (expected : situation.shade.assembler.expectedSequence = sequenceAfter situation.txSequence)
      (responds : exchange.Responds situation.notifications situation)

/-- The session's task waits for the reply. -/
structure Answering (exchange : Exchange primitives setup) (situation : Situation) : Prop where
  noPart : situation.shade.assembler.buffer = []
  sameSequence : situation.txSequence = situation.shade.assembler.expectedSequence
  responds : exchange.Responds situation.notifications situation

variable {exchange : Exchange primitives setup} {notifications : List Bytes}
variable {situation : Situation}

theorem Responds.besides (responds : exchange.Responds notifications situation)
    (held : List Bytes) (waiters : Nat → Option AckWaiter) (sequence : Nat) :
    exchange.Responds notifications { situation with
      notifications := held
      ackWaiters := waiters
      txSequence := sequence } := by
  cases responds with
  | pending requested reads listening sends =>
      exact .pending requested reads
        ⟨listening.noBuffer, listening.waiting, listening.noResponse⟩ sends
  | replying rest noRequest reads receives sends =>
      exact .replying rest noRequest reads receives sends

theorem Responds.working (responds : exchange.Responds notifications situation) :
    situation.worker = some .waiting ∨
      ∃ message, situation.worker = some (.acknowledging message) := by
  cases responds with
  | pending _ _ listening _ => exact .inl listening.waiting
  | replying _ _ _ receives _ =>
      cases receives with
      | incomplete _ _ working _ =>
          rcases working with waiting | writing
          · exact .inl waiting
          · exact .inr ⟨none, writing⟩
      | completed _ _ writing _ => exact .inr ⟨_, writing⟩
      | queued _ _ waiting _ => exact .inl waiting

theorem Responds.few (responds : exchange.Responds notifications situation) :
    notifications.length ≤ 1 := by
  cases responds with
  | pending _ _ _ sends => exact sends.few
  | replying _ _ _ _ sends => exact sends.few

theorem Requested.few (requested : exchange.Requested situation) :
    situation.notifications.length ≤ notificationQueueSize := by
  have queueSize : notificationQueueSize = 128 := rfl
  cases requested with
  | sent acks waiter written noNotification =>
      rw [noNotification]
      exact Nat.zero_le _
  | received rest waiter notified positive bound noPart expected responds =>
      have few := responds.few
      rw [notified, List.length_cons]
      omega
  | acknowledged waiter noPart expected responds =>
      have few := responds.few
      omega

end Exchange

namespace Dialogue

variable {primitives : CryptoPrimitives} {setup : ShadeSetup} {step : Step}
variable {before after : Dialogue}

/-! ## Stability -/

theorem idle_step {statusReads : Nat} (idle : before.situation.Idle statusReads)
    (moved : background primitives setup step before = some after) :
    after.situation.Idle statusReads := by
  rcases idle with ⟨listening, noRequest, reads, noPart, sameSequence, sends⟩
  cases step with
  | notify =>
      have few : before.situation.notifications.length ≤ notificationQueueSize :=
        Nat.le_trans sends.few (by decide)
      rw [notify_situation few moved]
      exact ⟨listening, noRequest, reads, noPart, sameSequence, sends⟩
  | work => exact absurd rfl (sends.more (work_waiting moved).2)
  | workWritten =>
      rcases workWritten_situation moved with ⟨message, writing, _⟩
      cases writing.symm.trans listening.waiting
  | write =>
      rcases write_situation moved with ⟨data, rest, written, situated⟩
      rw [written] at sends
      rcases sends.receive with ⟨noMore, more, next, received, sendsAfter⟩
      have receivedHere : before.shade.receive data = _ := received
      rw [situated, receivedHere, noMore, List.append_nil]
      exact ⟨⟨listening.noBuffer, listening.waiting, listening.noResponse⟩, noRequest, reads,
        noPart, sameSequence, sendsAfter⟩
  | respond =>
      rcases respond_situation moved with ⟨shade, responded, _⟩
      have noRequestHere : before.shade.requests = [] := noRequest
      rw [Shade.respond, noRequestHere] at responded
      cases responded
  | emit =>
      rcases emit_situation moved with ⟨shade, chunk, emitted, situated⟩
      rcases sends.emit emitted with ⟨rfl, sendsAfter⟩
      rw [situated]
      exact ⟨⟨listening.noBuffer, listening.waiting, listening.noResponse⟩, noRequest, reads,
        noPart, sameSequence, sendsAfter⟩

/-- Once the acknowledgement of the request has been taken, nothing else reaches a waiter. -/
theorem responds_step {exchange : Exchange primitives setup}
    (responds : exchange.Responds before.situation.notifications before.situation)
    (moved : background primitives setup step before = some after) :
    exchange.Responds after.situation.notifications after.situation ∧
      after.situation.shade.assembler = before.situation.shade.assembler ∧
      after.situation.ackWaiters = before.situation.ackWaiters ∧
      after.situation.txSequence = before.situation.txSequence := by
  cases step with
  | notify =>
      have few : before.situation.notifications.length ≤ notificationQueueSize :=
        Nat.le_trans responds.few (by decide)
      rw [notify_situation few moved]
      exact ⟨responds, rfl, rfl, rfl⟩
  | work =>
      rcases List.exists_cons_of_ne_nil (work_waiting moved).2 with ⟨data, rest, notified⟩
      rw [notified] at responds
      rcases responds.accept (work_waiting moved).1 with
        ⟨noMore, endOfMessage, payload, isChunk, fits, respondsAfter⟩
      rw [noMore, isChunk] at notified
      rw [work_dataChunk fits notified moved]
      exact ⟨respondsAfter, rfl, rfl, rfl⟩
  | workWritten =>
      rcases workWritten_situation moved with ⟨message, writing, situated⟩
      rcases responds.written writing with ⟨noResponse, respondsAfter⟩
      rw [situated noResponse]
      exact ⟨respondsAfter, rfl, rfl, rfl⟩
  | write =>
      rcases write_situation moved with ⟨data, rest, written, situated⟩
      rcases responds.write written (before.situation.notifications ++ []) with
        ⟨noReply, sameAssembler, respondsAfter⟩
      have noReplyHere : (before.shade.receive data).2 = [] := noReply
      rw [situated, noReplyHere]
      refine ⟨?_, sameAssembler, rfl, rfl⟩
      simp only [List.append_nil] at respondsAfter ⊢
      exact respondsAfter
  | respond =>
      rcases respond_situation moved with ⟨shade, responded, situated⟩
      rcases responds.respond responded with ⟨sameAssembler, respondsAfter⟩
      rw [situated]
      exact ⟨respondsAfter, sameAssembler, rfl, rfl⟩
  | emit =>
      rcases emit_situation moved with ⟨shade, chunk, emitted, situated⟩
      rcases responds.emit emitted (before.situation.notifications ++ [chunk]) with
        ⟨sameAssembler, respondsAfter⟩
      rw [situated]
      exact ⟨respondsAfter, sameAssembler, rfl, rfl⟩

theorem answering_step {exchange : Exchange primitives setup}
    (answering : exchange.Answering before.situation)
    (moved : background primitives setup step before = some after) :
    exchange.Answering after.situation := by
  rcases responds_step answering.responds moved with
    ⟨respondsAfter, sameAssembler, _, sameSequence⟩
  constructor
  · rw [sameAssembler]
    exact answering.noPart
  · rw [sameAssembler, sameSequence]
    exact answering.sameSequence
  · exact respondsAfter

/-- The request has been handed out. -/
theorem sent_step {exchange : Exchange primitives setup} {acks : List Bytes}
    (waiter : before.situation.ackWaiters before.situation.txSequence = some .pending)
    (written : before.situation.uplink =
      acks ++ [dataChunk before.situation.txSequence true exchange.request])
    (noNotification : before.situation.notifications = [])
    (listening : before.situation.Listening)
    (noRequest : before.situation.shade.requests = [])
    (reads : before.situation.shade.statusReads = exchange.readsBefore)
    (noPart : before.situation.shade.assembler.buffer = [])
    (expected : before.situation.shade.assembler.expectedSequence = before.situation.txSequence)
    (sends : Sends [] before.situation.assembler.expectedSequence acks []
      before.situation.shade)
    (moved : background primitives setup step before = some after) :
    exchange.Requested after.situation := by
  cases step with
  | notify =>
      have few : before.situation.notifications.length ≤ notificationQueueSize := by
        rw [noNotification]
        exact Nat.zero_le _
      rw [notify_situation few moved]
      exact .sent acks waiter written noNotification listening noRequest reads noPart expected
        sends
  | work => exact absurd noNotification (work_waiting moved).2
  | workWritten =>
      rcases workWritten_situation moved with ⟨message, writing, _⟩
      cases writing.symm.trans listening.waiting
  | write =>
      rcases write_situation moved with ⟨data, rest, oldest, situated⟩
      rw [written] at oldest
      cases acks with
      | nil =>
          cases oldest
          have received := Shade.receive_request exchange.requestFits noPart
          rw [expected] at received
          have receivedHere : before.shade.receive
            (dataChunk before.situation.txSequence true exchange.request) = _ := received
          have positive := before.situation.shade.assembler.expectedSequence_pos
          have bound := before.situation.shade.assembler.expectedSequence_le
          have advanced : (before.situation.shade.assembler.advance []).expectedSequence =
              sequenceAfter before.situation.txSequence := by
            rw [← expected]
            rfl
          rw [expected] at positive bound
          rw [situated, receivedHere, noNotification]
          refine .received [] waiter rfl positive bound rfl advanced (.pending ?_ reads
            ⟨listening.noBuffer, listening.waiting, listening.noResponse⟩ ?_)
          · rw [noRequest]
            rfl
          · exact sends.besides _ _
      | cons ack acks =>
          cases oldest
          rcases sends.receive with ⟨rfl, more, next, received, sendsAfter⟩
          have receivedHere : before.shade.receive data = _ := received
          rw [situated, receivedHere, noNotification]
          exact .sent [] waiter rfl rfl
            ⟨listening.noBuffer, listening.waiting, listening.noResponse⟩ noRequest reads noPart
            expected sendsAfter
  | respond =>
      rcases respond_situation moved with ⟨shade, responded, _⟩
      have noRequestHere : before.shade.requests = [] := noRequest
      rw [Shade.respond, noRequestHere] at responded
      cases responded
  | emit =>
      rcases emit_situation moved with ⟨shade, chunk, emitted, _⟩
      exact absurd rfl ((sends.emit emitted).2.more (List.cons_ne_nil _ _))

/-- The request has been received. -/
theorem received_step {exchange : Exchange primitives setup} {rest : List Bytes}
    (waiter : before.situation.ackWaiters before.situation.txSequence = some .pending)
    (notified : before.situation.notifications = bleAck before.situation.txSequence :: rest)
    (positive : 1 ≤ before.situation.txSequence)
    (bound : before.situation.txSequence ≤ maxSequence)
    (noPart : before.situation.shade.assembler.buffer = [])
    (expected : before.situation.shade.assembler.expectedSequence =
      sequenceAfter before.situation.txSequence)
    (responds : exchange.Responds rest before.situation)
    (moved : background primitives setup step before = some after) :
    exchange.Requested after.situation := by
  cases step with
  | notify =>
      have few : before.situation.notifications.length ≤ notificationQueueSize :=
        (Exchange.Requested.received rest waiter notified positive bound noPart expected
          responds).few
      rw [notify_situation few moved]
      exact .received rest waiter notified positive bound noPart expected responds
  | work =>
      rw [work_bleAck positive bound notified moved]
      refine .acknowledged ?_ noPart expected (responds.besides _ _ _)
      have pending : before.world.session.ackWaiters before.world.session.txSequence =
        some .pending := waiter
      simp [situation, TiltBleSession.acknowledgeWaiter, pending,
        TiltBleSession.AckWaiter.resolve]
  | workWritten =>
      rcases workWritten_situation moved with ⟨message, writing, situated⟩
      rcases responds.written writing with ⟨noResponse, respondsAfter⟩
      rw [situated noResponse]
      exact .received rest waiter notified positive bound noPart expected respondsAfter
  | write =>
      rcases write_situation moved with ⟨data, uplink, written, situated⟩
      rcases responds.write written (bleAck before.situation.txSequence :: rest) with
        ⟨noReply, sameAssembler, respondsAfter⟩
      have noReplyHere : (before.shade.receive data).2 = [] := noReply
      rw [← sameAssembler] at noPart expected
      rw [situated, noReplyHere, List.append_nil, notified]
      exact .received rest waiter rfl positive bound noPart expected respondsAfter
  | respond =>
      rcases respond_situation moved with ⟨shade, responded, situated⟩
      rcases responds.respond responded with ⟨sameAssembler, respondsAfter⟩
      rw [← sameAssembler] at noPart expected
      rw [situated]
      exact .received rest waiter notified positive bound noPart expected respondsAfter
  | emit =>
      rcases emit_situation moved with ⟨shade, chunk, emitted, situated⟩
      rcases responds.emit emitted (bleAck before.situation.txSequence :: (rest ++ [chunk])) with
        ⟨sameAssembler, respondsAfter⟩
      rw [← sameAssembler] at noPart expected
      rw [situated, notified]
      exact .received (rest ++ [chunk]) waiter rfl positive bound noPart expected respondsAfter

theorem requested_step {exchange : Exchange primitives setup}
    (requested : exchange.Requested before.situation)
    (moved : background primitives setup step before = some after) :
    exchange.Requested after.situation := by
  cases requested with
  | sent acks waiter written noNotification listening noRequest reads noPart expected sends =>
      exact sent_step waiter written noNotification listening noRequest reads noPart expected
        sends moved
  | received rest waiter notified positive bound noPart expected responds =>
      exact received_step waiter notified positive bound noPart expected responds moved
  | acknowledged waiter noPart expected responds =>
      rcases responds_step responds moved with
        ⟨respondsAfter, sameAssembler, sameWaiters, sameSequence⟩
      apply Exchange.Requested.acknowledged
      · rw [sameWaiters, sameSequence]
        exact waiter
      · rw [sameAssembler]
        exact noPart
      · rw [sameAssembler, sameSequence]
        exact expected
      · exact respondsAfter

/-! ## Progress -/

/-- A step of the worker, of the links or of the shade is possible. -/
def CanMove (primitives : CryptoPrimitives) (setup : ShadeSetup) (dialogue : Dialogue) : Prop :=
  ∃ step after, background primitives setup step dialogue = some after

variable {dialogue : Dialogue}

theorem canMove_acknowledging {message : Option Bytes}
    (writing : dialogue.situation.worker = some (.acknowledging message)) :
    CanMove primitives setup dialogue := by
  have writingHere : dialogue.world.session.worker = some (.acknowledging message) := writing
  refine ⟨.workWritten, ?_⟩
  simp only [background, World.background, writingHere, Option.map_some]
  exact ⟨_, rfl⟩

theorem canMove_written (written : dialogue.situation.uplink ≠ []) :
    CanMove primitives setup dialogue := by
  rcases List.exists_cons_of_ne_nil written with ⟨data, rest, oldest⟩
  have oldestHere : dialogue.uplink = data :: rest := oldest
  refine ⟨.write, ?_⟩
  simp only [background, oldestHere]
  exact ⟨_, rfl⟩

theorem canMove_notified (hasSession : dialogue.world.hasSession = true)
    (working : dialogue.situation.worker = some .waiting ∨
      ∃ message, dialogue.situation.worker = some (.acknowledging message))
    (notified : dialogue.situation.notifications ≠ []) : CanMove primitives setup dialogue := by
  rcases working with waiting | ⟨message, writing⟩
  · have waitingHere : dialogue.world.session.worker = some .waiting := waiting
    cases queue : dialogue.world.session.notificationQueue with
    | cons data rest =>
        refine ⟨.work, ?_⟩
        simp only [background, World.background, waitingHere, queue, Option.map]
        split
        · exact ⟨_, rfl⟩
        · next stuck =>
            split at stuck
            · cases stuck
            · cases stuck
    | nil =>
        cases downlink : dialogue.downlink with
        | nil =>
            apply absurd _ notified
            rw [situation, queue, downlink]
            rfl
        | cons data rest =>
            refine ⟨.notify, ?_⟩
            simp only [background, downlink, World.background, hasSession, if_true, Option.map_some]
            exact ⟨_, rfl⟩
  · exact canMove_acknowledging writing

theorem canMove_requested {request : Bytes}
    (requested : dialogue.situation.shade.requests = [request])
    (noChunk : dialogue.situation.shade.unsent = []) : CanMove primitives setup dialogue := by
  have requestedHere : dialogue.shade.requests = [request] := requested
  have noChunkHere : dialogue.shade.unsent = [] := noChunk
  refine ⟨.respond, ?_⟩
  simp only [background, Shade.respond, requestedHere, noChunkHere]
  split
  · exact ⟨_, rfl⟩
  · split
    · exact ⟨_, rfl⟩
    · exact ⟨_, rfl⟩

theorem canMove_unsent (unsent : dialogue.situation.shade.unsent ≠ [])
    (awaits : dialogue.situation.shade.awaitsAck = false) :
    CanMove primitives setup dialogue := by
  rcases List.exists_cons_of_ne_nil unsent with ⟨chunk, rest, next⟩
  have nextHere : dialogue.shade.unsent = chunk :: rest := next
  have awaitsHere : dialogue.shade.awaitsAck = false := awaits
  refine ⟨.emit, ?_⟩
  simp only [background, Shade.emit, nextHere, awaitsHere, Option.map_some]
  exact ⟨_, rfl⟩

theorem responds_canMove {exchange : Exchange primitives setup}
    (hasSession : dialogue.world.hasSession = true)
    (responds : exchange.Responds dialogue.situation.notifications dialogue.situation) :
    CanMove primitives setup dialogue ∨
      dialogue.situation.responseQueue = [.message exchange.reply] := by
  by_cases notified : dialogue.situation.notifications = []
  · by_cases written : dialogue.situation.uplink = []
    · cases responds with
      | pending requested reads listening sends =>
          rw [notified, written] at sends
          exact .inl (canMove_requested requested sends.quiet_unsent)
      | replying rest noRequest reads receives sends =>
          cases receives with
          | queued whole noBuffer waiting response => exact .inr response
          | completed whole noBuffer writing noResponse =>
              exact .inl (canMove_acknowledging writing)
          | incomplete more parts working noResponse =>
              rw [notified, written] at sends
              have unsent := sends.quiet_more more dialogue.situation.assembler.expectedSequence_pos
                dialogue.situation.assembler.expectedSequence_le
              exact .inl (canMove_unsent unsent sends.quiet.1)
    · exact .inl (canMove_written written)
  · exact .inl (canMove_notified hasSession responds.working notified)

/-! ## Quiet moments -/

/-- Nothing is under way in either direction; an acknowledgement is under way until the
task that waits for it goes on. -/
structure Quiet (dialogue : Dialogue) : Prop where
  noWrite : dialogue.uplink = []
  noNotification : dialogue.downlink = []
  noneQueued : dialogue.world.session.notificationQueue = []
  noWaiter : ∀ sequence, dialogue.world.session.ackWaiters sequence = none

/-- Each side expects the sequence number that the other one sends next. -/
structure SequencesAgree (dialogue : Dialogue) : Prop where
  central : dialogue.world.session.txSequence = dialogue.shade.assembler.expectedSequence
  shade : dialogue.shade.txSequence = dialogue.world.session.assembler.expectedSequence

theorem Quiet.notifications (quiet : dialogue.Quiet) : dialogue.situation.notifications = [] := by
  rw [situation, quiet.noneQueued, quiet.noNotification]
  rfl

theorem idle_agrees {statusReads : Nat} (idle : dialogue.situation.Idle statusReads)
    (quiet : dialogue.Quiet) : dialogue.SequencesAgree := by
  have sends := idle.sends
  have noWrite : dialogue.situation.uplink = [] := quiet.noWrite
  rw [quiet.notifications, noWrite] at sends
  exact ⟨idle.sameSequence, sends.quiet.2⟩

theorem answering_agrees {exchange : Exchange primitives setup}
    (answering : exchange.Answering dialogue.situation) (quiet : dialogue.Quiet) :
    dialogue.SequencesAgree := by
  have noWrite : dialogue.situation.uplink = [] := quiet.noWrite
  refine ⟨answering.sameSequence, ?_⟩
  cases answering.responds with
  | pending requested reads listening sends =>
      rw [quiet.notifications, noWrite] at sends
      exact sends.quiet.2
  | replying rest noRequest reads receives sends =>
      rw [quiet.notifications, noWrite] at sends
      exact sends.quiet.2

theorem requested_not_quiet {exchange : Exchange primitives setup}
    (requested : exchange.Requested dialogue.situation) : ¬dialogue.Quiet := by
  intro quiet
  have noWaiter := quiet.noWaiter dialogue.situation.txSequence
  cases requested with
  | sent acks waiter => cases noWaiter.symm.trans waiter
  | received rest waiter => cases noWaiter.symm.trans waiter
  | acknowledged waiter => cases noWaiter.symm.trans waiter

end Dialogue

end SmartblindsBle
