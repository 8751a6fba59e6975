import SmartblindsBle.Tilt.Dialogue

/-! # How a dialogue moves

Every step of the worker, of the links and of the shade is described by what it
changes of the dialogue's situation.
-/

namespace SmartblindsBle

open Foundation

/-- What of a dialogue decides how it goes on. A notification that waits in the
session's queue counts as under way. -/
structure Situation where
  assembler : BleMessageAssembler
  worker : Option NotificationWorker
  responseQueue : List ResponseItem
  ackWaiters : Nat → Option AckWaiter
  txSequence : Nat
  uplink : List Bytes
  notifications : List Bytes
  shade : Shade

namespace Dialogue

def situation (dialogue : Dialogue) : Situation where
  assembler := dialogue.world.session.assembler
  worker := dialogue.world.session.worker
  responseQueue := dialogue.world.session.responseQueue
  ackWaiters := dialogue.world.session.ackWaiters
  txSequence := dialogue.world.session.txSequence
  uplink := dialogue.uplink
  notifications := dialogue.world.session.notificationQueue ++ dialogue.downlink
  shade := dialogue.shade

section Moves

variable {primitives : CryptoPrimitives} {setup : ShadeSetup} {before after : Dialogue}

theorem notify_situation
    (few : before.situation.notifications.length ≤ notificationQueueSize)
    (moved : background primitives setup .notify before = some after) :
    after.situation = before.situation := by
  simp only [background] at moved
  split at moved
  · cases moved
  · next data rest isNext =>
      rcases Option.map_eq_some_iff.mp moved with ⟨world, notified, equal⟩
      rw [← equal]
      simp only [World.background, Option.ite_none_right_eq_some] at notified
      cases notified.2
      have room : before.world.session.notificationQueue.length < notificationQueueSize := by
        simp only [situation, isNext, List.length_append, List.length_cons] at few
        omega
      simp only [situation, World.modifySession, TiltBleSession.notificationReceived,
        if_pos room, isNext, List.append_assoc, List.cons_append, List.nil_append]

/-- The situation after the worker has handled a notification. -/
def handling (before : Dialogue) (handled : TiltBleSession × Option Bytes) : Situation :=
  { before.situation with
    assembler := handled.1.assembler
    worker := handled.1.worker
    responseQueue := handled.1.responseQueue
    ackWaiters := handled.1.ackWaiters
    txSequence := handled.1.txSequence
    uplink := before.uplink ++ handled.2.toList
    notifications := handled.1.notificationQueue ++ before.downlink }

theorem work_situation (moved : background primitives setup .work before = some after) :
    ∃ data queue, before.world.session.worker = some .waiting ∧
      before.situation.notifications = data :: (queue ++ before.downlink) ∧
      after.situation = before.handling
        (TiltBleSession.handleNotification data
          { before.world.session with notificationQueue := queue }) := by
  rcases Option.map_eq_some_iff.mp moved with ⟨world, worked, equal⟩
  simp only [World.background] at worked
  split at worked
  · next data rest worker queue =>
      refine ⟨data, rest, worker, ?_, ?_⟩
      · rw [situation, queue]
        rfl
      · rw [← equal]
        split at worked
        · next noAck =>
            cases worked
            simp [situation, handling, acknowledgements, noAck]
        · next ack isAck =>
            cases worked
            simp [situation, handling, acknowledgements, World.record, isAck]
  · cases worked

theorem work_bleAck {sequence : Nat} {rest : List Bytes} (positive : 1 ≤ sequence)
    (bound : sequence ≤ maxSequence)
    (isNext : before.situation.notifications = bleAck sequence :: rest)
    (moved : background primitives setup .work before = some after) :
    after.situation = { before.situation with
      notifications := rest
      ackWaiters := (before.world.session.acknowledgeWaiter sequence).ackWaiters } := by
  rcases work_situation moved with ⟨data, queue, worker, notified, situated⟩
  cases isNext.symm.trans notified
  rw [situated, TiltBleSession.handleNotification_bleAck _ positive bound]
  simp [handling, situation, TiltBleSession.acknowledgeWaiter]

theorem work_dataChunk {endOfMessage : Bool} {payload : Bytes} {rest : List Bytes}
    (fits : payload.length ≤ maxBlePayload)
    (isNext : before.situation.notifications =
      dataChunk before.situation.assembler.expectedSequence endOfMessage payload :: rest)
    (moved : background primitives setup .work before = some after) :
    after.situation = { before.situation with
      notifications := rest
      assembler := before.situation.assembler.advance
        (if endOfMessage then [] else before.situation.assembler.buffer ++ payload)
      worker := some (.acknowledging
        (if endOfMessage then some (before.situation.assembler.buffer ++ payload) else none))
      uplink := before.situation.uplink ++
        [bleAck before.situation.assembler.expectedSequence] } := by
  rcases work_situation moved with ⟨data, queue, worker, notified, situated⟩
  cases isNext.symm.trans notified
  have handled := TiltBleSession.handleNotification_dataChunk
    { before.world.session with notificationQueue := queue } endOfMessage fits
  exact situated.trans (congrArg before.handling handled)

theorem work_waiting (moved : background primitives setup .work before = some after) :
    before.situation.worker = some .waiting ∧ before.situation.notifications ≠ [] := by
  rcases work_situation moved with ⟨data, queue, worker, notified, _⟩
  refine ⟨worker, ?_⟩
  rw [notified]
  exact List.cons_ne_nil _ _

theorem workWritten_situation
    (moved : background primitives setup .workWritten before = some after) :
    ∃ message, before.situation.worker = some (.acknowledging message) ∧
      (before.situation.responseQueue = [] → after.situation = { before.situation with
        worker := some .waiting
        responseQueue := message.toList.map ResponseItem.message }) := by
  rcases Option.map_eq_some_iff.mp moved with ⟨world, written, equal⟩
  simp only [World.background] at written
  split at written
  · cases written
  · next message writing _ =>
      refine ⟨message, writing, ?_⟩
      intro noResponse
      cases written
      rw [← equal]
      have isEmpty : before.world.session.responseQueue = [] := noResponse
      cases message with
      | none =>
          simp [situation, World.modifySession, TiltBleSession.acknowledgementWritten, isEmpty]
      | some message =>
          simp [situation, World.modifySession, TiltBleSession.acknowledgementWritten, isEmpty,
            responseQueueSize]
  · cases written

theorem write_situation (moved : background primitives setup .write before = some after) :
    ∃ data rest, before.situation.uplink = data :: rest ∧
      after.situation = { before.situation with
        uplink := rest
        notifications := before.situation.notifications ++ (before.shade.receive data).2
        shade := (before.shade.receive data).1 } := by
  simp only [background] at moved
  split at moved
  · cases moved
  · next data rest isNext =>
      cases moved
      refine ⟨data, rest, isNext, ?_⟩
      simp [situation]

theorem respond_situation (moved : background primitives setup .respond before = some after) :
    ∃ shade, before.shade.respond primitives setup = some shade ∧
      after.situation = { before.situation with shade := shade } := by
  rcases Option.map_eq_some_iff.mp moved with ⟨shade, responded, equal⟩
  refine ⟨shade, responded, ?_⟩
  rw [← equal]
  rfl

theorem emit_situation (moved : background primitives setup .emit before = some after) :
    ∃ shade chunk, before.shade.emit = some (shade, chunk) ∧
      after.situation = { before.situation with
        shade := shade
        notifications := before.situation.notifications ++ [chunk] } := by
  rcases Option.map_eq_some_iff.mp moved with ⟨⟨shade, chunk⟩, emitted, equal⟩
  refine ⟨shade, chunk, emitted, ?_⟩
  rw [← equal]
  simp [situation]

end Moves

end Dialogue

end SmartblindsBle
