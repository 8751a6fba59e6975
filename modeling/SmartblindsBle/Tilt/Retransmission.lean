import SmartblindsBle.Tilt.Streams
import SmartblindsBle.Tilt.Transcript

/-! # Retransmission of chunks

A frame is sent with one retransmission for each chunk, over a link that may lose
the first copy of a chunk or the first acknowledgement of it, to a receiver that
acknowledges what its assembler accepts.
-/

namespace SmartblindsBle

open Foundation

/-! ## The receiver -/

/-- The receiving side of the link layer, and the messages it has delivered. -/
structure Receiver where
  assembler : BleMessageAssembler
  delivered : List Bytes

/-- A data chunk arrives: the new state, and the acknowledgement if the chunk was
accepted. -/
def Receiver.receive (data : Bytes) (receiver : Receiver) : Receiver × Option Bytes :=
  match receiver.assembler.add data with
  | (assembler, .error _) => ({ receiver with assembler := assembler }, none)
  | (assembler, .ok (acknowledged, message)) =>
      match makeBleAck acknowledged with
      | .error _ => ({ receiver with assembler := assembler }, none)
      | .ok ack => (⟨assembler, receiver.delivered ++ message.toList⟩, some ack)

/-- The notification worker is such a receiver. -/
theorem handleNotification_receive {session : TiltBleSession} {data : Bytes} {chunk : BleChunk}
    (parsed : parseBleChunk data = .ok chunk) (isData : chunk.forBluetoothLayer = false)
    (delivered : List Bytes) :
    (session.handleNotification data).2 =
        (Receiver.receive data ⟨session.assembler, delivered⟩).2 ∧
      (session.handleNotification data).1.assembler =
        (Receiver.receive data ⟨session.assembler, delivered⟩).1.assembler := by
  have raised (error : PythonException) (session : TiltBleSession) :
      (session.workerRaised error).assembler = session.assembler := by
    unfold TiltBleSession.workerRaised
    split <;> rfl
  unfold TiltBleSession.handleNotification Receiver.receive
  rw [parsed]
  simp only [isData, Bool.false_eq_true, if_false]
  rcases session.assembler.add data with ⟨assembler, error | ⟨acknowledged, message⟩⟩
  · exact ⟨rfl, raised error _⟩
  · dsimp only
    cases makeBleAck acknowledged with
    | error error => exact ⟨rfl, raised error _⟩
    | ok ack => exact ⟨rfl, rfl⟩

theorem Receiver.receive_expected (receiver : Receiver) (endOfMessage : Bool) {payload : Bytes}
    (fits : payload.length ≤ maxBlePayload) :
    receiver.receive (dataChunk receiver.assembler.expectedSequence endOfMessage payload) =
      (if endOfMessage = false then
          ⟨receiver.assembler.advance (receiver.assembler.buffer ++ payload), receiver.delivered⟩
        else
          ⟨receiver.assembler.advance [],
            receiver.delivered ++ [receiver.assembler.buffer ++ payload]⟩,
        some (bleAck receiver.assembler.expectedSequence)) := by
  have acknowledged := makeBleAck_eq receiver.assembler.expectedSequence_pos
    receiver.assembler.expectedSequence_le
  rw [Receiver.receive, BleMessageAssembler.add_dataChunk _ endOfMessage fits]
  cases endOfMessage with
  | false => simp [acknowledged]
  | true => simp [acknowledged]

/-- A chunk that was accepted is refused when it comes again. -/
theorem Receiver.receive_repeated (receiver : Receiver) (endOfMessage : Bool) {payload : Bytes}
    (fits : payload.length ≤ maxBlePayload) :
    ((receiver.receive
        (dataChunk receiver.assembler.expectedSequence endOfMessage payload)).1.receive
      (dataChunk receiver.assembler.expectedSequence endOfMessage payload)).2 = none := by
  have refused (later : Receiver)
      (advanced : later.assembler.expectedSequence =
        sequenceAfter receiver.assembler.expectedSequence) :
      (later.receive
        (dataChunk receiver.assembler.expectedSequence endOfMessage payload)).2 = none := by
    have gap : receiver.assembler.expectedSequence ≠ later.assembler.expectedSequence := by
      rw [advanced]
      exact (sequenceAfter_ne _).symm
    rw [Receiver.receive, BleMessageAssembler.add_dataChunk_noncontiguous _
      receiver.assembler.expectedSequence_pos receiver.assembler.expectedSequence_le endOfMessage
      fits gap]
  rw [receiver.receive_expected endOfMessage fits]
  apply refused
  cases endOfMessage <;> rfl

/-! ## The lossy link -/

/-- What the link loses of a chunk: nothing, its first copy, or the acknowledgement
of that copy. -/
inductive Loss
  | nothing
  | firstCopy
  | firstAck
  deriving DecidableEq

/-- The sender of a frame and its receiver. -/
structure Transfer where
  sender : Task World Operation Operation.Reply PythonException Bytes
  receiver : Receiver

namespace Transfer

/-- The chunk that the sender has handed to `write_gatt_char`. -/
def handed? (transfer : Transfer) : Option Bytes :=
  match transfer.sender.code with
  | .await (.writeGattChar chunk) _ => some chunk
  | _ => none

/-- The write completes. Either the acknowledgement is notified and awaited, or the
timer of the wait fires. -/
def sendingEvents : Option Bytes → List SessionEvent
  | some ack => [.resume .completed, .background (.notify ack), .background .work,
      .resume .completed]
  | none => [.resume .completed, .resume .timedOut]

/-- One copy of the chunk, and whether its acknowledgement arrives. -/
def transmit (copyLost ackLost : Bool) (chunk : Bytes) (transfer : Transfer) :
    Option (Transfer × Bool) :=
  let received := if copyLost then (transfer.receiver, none) else transfer.receiver.receive chunk
  let arriving := if ackLost then none else received.2
  (eventLoop.run transfer.sender (sendingEvents arriving)).map fun sender =>
    (⟨sender, received.1⟩, arriving.isSome)

/-- A chunk, and its retransmission if the sender makes one. -/
def exchangeChunk (loss : Loss) (chunk : Bytes) (transfer : Transfer) : Option Transfer :=
  match transfer.transmit (loss = .firstCopy) (loss = .firstAck) chunk with
  | none => none
  | some (first, true) => some first
  | some (first, false) =>
      match first.handed? with
      | none => some first
      | some again => (first.transmit false false again).map Prod.fst

/-- The chunks of a frame, one after the other, until the sender hands out none. -/
def exchangeChunks : List Loss → Transfer → Option Transfer
  | [], transfer => some transfer
  | loss :: losses, transfer =>
      match transfer.handed? with
      | none => some transfer
      | some chunk => (transfer.exchangeChunk loss chunk).bind (exchangeChunks losses)

/-- Every chunk was acknowledged, since the sender waits for the response; the frame
was delivered once and unchanged; and both sides are at the same sequence number. -/
structure Recovers (frame : Bytes) (transfer : Transfer) : Prop where
  acknowledged : ∃ resume, transfer.sender.code = .await .getResponse resume
  delivered : transfer.receiver.delivered = [frame]
  sameSequence : transfer.sender.state.session.txSequence =
    transfer.receiver.assembler.expectedSequence

end Transfer

/-! ## The sender under the link -/

/-- The session's worker waits for a notification, and none is queued. -/
structure World.Listens (world : World) : Prop where
  hasSession : world.hasSession = true
  waiting : world.session.worker = some .waiting
  noNotification : world.session.notificationQueue = []

namespace World

/-- A chunk has been handed out, and its waiter is registered. -/
def handing (chunk : Bytes) (sequence : Nat) (world : World) : World :=
  (world.modifySession (TiltBleSession.registerWaiter sequence)).record (.handed chunk)

/-- The waiter is popped. -/
def abandoning (sequence : Nat) (world : World) : World :=
  world.modifySession (TiltBleSession.popWaiter sequence)

/-- The acknowledgement is noted, and the next sequence number is taken. -/
def confirming (sequence : Nat) (world : World) : World :=
  (world.record (.confirmed sequence)).modifySession fun session =>
    { session with txSequence := sequenceAfter sequence }

/-- A chunk has been handed out and acknowledged. -/
def exchanging (chunk : Bytes) (sequence : Nat) (world : World) : World :=
  (((world.handing chunk sequence).modifySession
    (TiltBleSession.acknowledgeWaiter sequence)).abandoning sequence).confirming sequence

theorem Listens.handing {world : World} (listens : world.Listens) (chunk : Bytes)
    (sequence : Nat) : (world.handing chunk sequence).Listens :=
  ⟨listens.hasSession, listens.waiting, listens.noNotification⟩

theorem Listens.abandoning {world : World} (listens : world.Listens) (sequence : Nat) :
    (world.abandoning sequence).Listens :=
  ⟨listens.hasSession, listens.waiting, listens.noNotification⟩

theorem Listens.exchanging {world : World} (listens : world.Listens) (chunk : Bytes)
    (sequence : Nat) : (world.exchanging chunk sequence).Listens :=
  ⟨listens.hasSession, listens.waiting, listens.noNotification⟩

theorem notify_bleAck {world : World} (listens : world.Listens) {sequence : Nat}
    (positive : 1 ≤ sequence) (bound : sequence ≤ maxSequence) :
    (eventLoop.background (.notify (bleAck sequence)) world).bind (eventLoop.background .work) =
      some (world.modifySession (TiltBleSession.acknowledgeWaiter sequence)) := by
  rcases world with ⟨session, hasSession, history⟩
  rcases session with ⟨_, responseQueue, ackWaiters, assembler, _, txSequence, counter, messageId,
    nonce⟩
  rcases listens with ⟨isSession, isWaiting, isEmpty⟩
  cases isSession
  cases isWaiting
  cases isEmpty
  simp only [eventLoop, background, if_true, Option.bind_some, modifySession,
    TiltBleSession.notificationReceived, notificationQueueSize, List.length_nil, List.nil_append,
    Nat.zero_lt_succ, TiltBleSession.handleNotification_bleAck _ positive bound]

theorem answer_acknowledged (world : World) (sequence : Nat) (chunk : Bytes) :
    eventLoop.answer (.waitAck sequence) .completed
        ((world.handing chunk sequence).modifySession
          (TiltBleSession.acknowledgeWaiter sequence)) =
      some (.ok (), (world.handing chunk sequence).modifySession
        (TiltBleSession.acknowledgeWaiter sequence)) := by
  simp [eventLoop, answer, complete, handing, modifySession, record,
    TiltBleSession.registerWaiter, TiltBleSession.acknowledgeWaiter,
    TiltBleSession.AckWaiter.resolve]

end World

namespace TiltBleSession

variable {Result : Type}

theorem run_sendChunk_acknowledged {world : World} (listens : world.Listens) (chunk : Bytes)
    {sequence : Nat} (positive : 1 ≤ sequence) (bound : sequence ≤ maxSequence) (remaining : Nat)
    (rest : Unit → Async Result) :
    eventLoop.run (eventLoop.settle (sendChunk chunk sequence (remaining + 1) >>= rest) world)
        [.resume .completed, .background (.notify (bleAck sequence)), .background .work,
          .resume .completed] =
      some (eventLoop.settle (rest ()) (((world.handing chunk sequence).modifySession
        (acknowledgeWaiter sequence)).abandoning sequence)) := by
  rcases Option.bind_eq_some_iff.mp
    (World.notify_bleAck (listens.handing chunk sequence) positive bound) with
    ⟨queued, notified, worked⟩
  rw [Environment.run_cons]
  change eventLoop.run ⟨.await (.waitAck sequence) _, world.handing chunk sequence⟩ _ = _
  rw [eventLoop.run_background notified, eventLoop.run_background worked,
    eventLoop.run_resume (World.answer_acknowledged world sequence chunk)]
  rfl

theorem run_sendChunk_abandoned (world : World) (chunk : Bytes) (sequence : Nat)
    (rest : Unit → Async Result) :
    eventLoop.run (eventLoop.settle (sendChunk chunk sequence 1 >>= rest) world)
        [.resume .completed, .resume .timedOut] =
      some ⟨.done (.error (.tiltBleTimeout
          ("Timed out waiting for BLE ACK sequence " ++ toString sequence ++ "."))),
        (world.handing chunk sequence).abandoning sequence⟩ := rfl

/-- What `_send_frame` does after the acknowledgement of a chunk. -/
def confirmChunk (sequence : Nat) (chunks : List Bytes) (rest : Unit → Async Result) :
    Async Result := do
  record (.confirmed sequence)
  let next ← Coroutine.ofExcept (nextSequence sequence)
  modify fun session => { session with txSequence := next }
  sendChunks true chunks >>= rest

theorem sendChunks_cons {sequence : Nat} (bound : sequence ≤ maxSequence) (endOfMessage : Bool)
    (payload : Bytes) (chunks : List Bytes) (rest : Unit → Async Result) :
    (sendChunks true (dataChunk sequence endOfMessage payload :: chunks) >>= rest) =
      (sendChunk (dataChunk sequence endOfMessage payload) sequence 2 >>= fun _ =>
        confirmChunk sequence chunks rest) := by
  have isSequence : ((dataChunk sequence endOfMessage payload).getD 1 0 &&& 0x3F).toNat =
      sequence := chunkFlags_sequence bound endOfMessage
  rw [sendChunks, isSequence]
  simp only [Coroutine.bind_assoc, if_true, confirmChunk]

theorem settle_confirmChunk {sequence : Nat} (positive : 1 ≤ sequence)
    (bound : sequence ≤ maxSequence) (chunks : List Bytes) (rest : Unit → Async Result)
    (world : World) :
    eventLoop.settle (confirmChunk sequence chunks rest) world =
      eventLoop.settle (sendChunks true chunks >>= rest) (world.confirming sequence) := by
  rw [confirmChunk, nextSequence_eq positive bound]
  rfl

end TiltBleSession

namespace Transfer

variable {world : World} {receiver : Receiver} {endOfMessage : Bool} {payload : Bytes}
variable {chunks : List Bytes} {rest : Unit → Async Bytes}

/-- A chunk that the receiver expects. -/
abbrev expected (receiver : Receiver) (endOfMessage : Bool) (payload : Bytes) : Bytes :=
  dataChunk receiver.assembler.expectedSequence endOfMessage payload

/-- The transfer whose sender is about to send these chunks. -/
abbrev sending (chunks : List Bytes) (rest : Unit → Async Bytes) (world : World)
    (receiver : Receiver) : Transfer :=
  ⟨eventLoop.settle (TiltBleSession.sendChunks true chunks >>= rest) world, receiver⟩

/-- The transfer whose sender attempts this chunk. -/
abbrev attempting (attempts : Nat) (chunk : Bytes) (sequence : Nat) (chunks : List Bytes)
    (rest : Unit → Async Bytes) (world : World) (receiver : Receiver) : Transfer :=
  ⟨eventLoop.settle (TiltBleSession.sendChunk chunk sequence attempts >>= fun _ =>
    TiltBleSession.confirmChunk sequence chunks rest) world, receiver⟩

theorem sending_cons : sending (expected receiver endOfMessage payload :: chunks) rest world
    receiver = attempting 2 (expected receiver endOfMessage payload)
      receiver.assembler.expectedSequence chunks rest world receiver := by
  rw [sending, TiltBleSession.sendChunks_cons receiver.assembler.expectedSequence_le]

variable (chunks rest) in
theorem transmit_acknowledged (listens : world.Listens) (remaining : Nat) {chunk : Bytes}
    {sequence : Nat} (positive : 1 ≤ sequence) (bound : sequence ≤ maxSequence)
    {later : Receiver} (received : receiver.receive chunk = (later, some (bleAck sequence))) :
    transmit false false chunk
        (attempting (remaining + 1) chunk sequence chunks rest world receiver) =
      some (sending chunks rest (world.exchanging chunk sequence) later, true) := by
  have sent := TiltBleSession.run_sendChunk_acknowledged listens chunk positive bound
    remaining fun _ => TiltBleSession.confirmChunk sequence chunks rest
  rw [TiltBleSession.settle_confirmChunk positive bound] at sent
  simp only [transmit, received, Bool.false_eq_true, if_false, sendingEvents]
  rw [sent]
  rfl

variable (world receiver chunks rest) in
theorem transmit_retried (copyLost : Bool) (chunk : Bytes) (sequence : Nat) :
    transmit copyLost (!copyLost) chunk (attempting 2 chunk sequence chunks rest world receiver) =
      some (attempting 1 chunk sequence chunks rest
        ((world.handing chunk sequence).abandoning sequence)
        (if copyLost then receiver else (receiver.receive chunk).1), false) := by
  cases copyLost <;> rfl

variable (world chunks rest) in
theorem transmit_abandoned (sequence : Nat) {chunk : Bytes} {later : Receiver}
    (refused : receiver.receive chunk = (later, none)) :
    transmit false false chunk (attempting 1 chunk sequence chunks rest world receiver) =
      some (⟨⟨.done (.error (.tiltBleTimeout
          ("Timed out waiting for BLE ACK sequence " ++ toString sequence ++ "."))),
        (world.handing chunk sequence).abandoning sequence⟩, later⟩, false) := by
  simp only [transmit, refused, Bool.false_eq_true, if_false, sendingEvents]
  rw [TiltBleSession.run_sendChunk_abandoned]
  rfl

theorem exchangeChunk_once {transfer first : Transfer} {loss : Loss} {chunk : Bytes}
    (sent : transfer.transmit (loss = .firstCopy) (loss = .firstAck) chunk = some (first, true)) :
    transfer.exchangeChunk loss chunk = some first := by
  rw [exchangeChunk, sent]

theorem exchangeChunk_twice {transfer first last : Transfer} {loss : Loss} {chunk again : Bytes}
    {acknowledged : Bool}
    (retried : transfer.transmit (loss = .firstCopy) (loss = .firstAck) chunk =
      some (first, false)) (handed : first.handed? = some again)
    (sent : first.transmit false false again = some (last, acknowledged)) :
    transfer.exchangeChunk loss chunk = some last := by
  rw [exchangeChunk, retried]
  simp only [handed, sent, Option.map_some]

/-- What the receiver has once it has received the chunk that it expects. -/
abbrev advanced (receiver : Receiver) (endOfMessage : Bool) (payload : Bytes) : Receiver :=
  (receiver.receive (expected receiver endOfMessage payload)).1

variable (receiver endOfMessage chunks rest) in
/-- A chunk of which no acknowledgement is lost. -/
theorem exchangeChunk_delivers {loss : Loss} (keepsAck : loss ≠ .firstAck)
    (listens : world.Listens) (fits : payload.length ≤ maxBlePayload) :
    ∃ after : World, after.Listens ∧
      after.session.txSequence = sequenceAfter receiver.assembler.expectedSequence ∧
      exchangeChunk loss (expected receiver endOfMessage payload)
          (sending (expected receiver endOfMessage payload :: chunks) rest world receiver) =
        some (sending chunks rest after (advanced receiver endOfMessage payload)) := by
  have positive := receiver.assembler.expectedSequence_pos
  have bound := receiver.assembler.expectedSequence_le
  have received : receiver.receive (expected receiver endOfMessage payload) =
      (advanced receiver endOfMessage payload,
        some (bleAck receiver.assembler.expectedSequence)) := by
    rw [advanced, receiver.receive_expected endOfMessage fits]
  rw [sending_cons]
  cases loss with
  | firstAck => exact absurd rfl keepsAck
  | nothing =>
      have sent := transmit_acknowledged chunks rest listens 1 positive bound
        received
      exact ⟨_, listens.exchanging (expected receiver endOfMessage payload) _, rfl,
        exchangeChunk_once sent⟩
  | firstCopy =>
      have retried := transmit_retried world receiver chunks rest true
        (expected receiver endOfMessage payload)
        receiver.assembler.expectedSequence
      have waits := (listens.handing (expected receiver endOfMessage payload)
        receiver.assembler.expectedSequence).abandoning receiver.assembler.expectedSequence
      have sent := transmit_acknowledged chunks rest waits 0 positive bound
        received
      exact ⟨_, waits.exchanging (expected receiver endOfMessage payload) _, rfl,
        exchangeChunk_twice retried rfl sent⟩

variable (world receiver endOfMessage chunks rest) in
/-- A chunk of which the first acknowledgement is lost: its second copy is refused,
and the sender gives up. -/
theorem exchangeChunk_fails (fits : payload.length ≤ maxBlePayload) :
    ∃ error last later,
      exchangeChunk .firstAck (expected receiver endOfMessage payload)
          (sending (expected receiver endOfMessage payload :: chunks) rest world receiver) =
        some ⟨⟨.done (.error error), last⟩, later⟩ := by
  have retried := transmit_retried world receiver chunks rest false
    (expected receiver endOfMessage payload)
    receiver.assembler.expectedSequence
  have refused : (advanced receiver endOfMessage payload).receive
      (expected receiver endOfMessage payload) =
        (((advanced receiver endOfMessage payload).receive
          (expected receiver endOfMessage payload)).1, none) :=
    Prod.ext rfl (receiver.receive_repeated endOfMessage fits)
  have abandoned := transmit_abandoned
    ((world.handing (expected receiver endOfMessage payload)
      receiver.assembler.expectedSequence).abandoning receiver.assembler.expectedSequence)
    chunks rest receiver.assembler.expectedSequence refused
  rw [sending_cons]
  exact ⟨_, _, _, exchangeChunk_twice retried rfl abandoned⟩

/-! ## The chunks of a frame -/

theorem exchangeChunks_cons {losses : List Loss} {loss : Loss} {next : Transfer}
    (exchanged : exchangeChunk loss (expected receiver endOfMessage payload)
      (sending (expected receiver endOfMessage payload :: chunks) rest world receiver) =
        some next) :
    exchangeChunks (loss :: losses)
        (sending (expected receiver endOfMessage payload :: chunks) rest world receiver) =
      exchangeChunks losses next := by
  have handed : (sending (expected receiver endOfMessage payload :: chunks) rest world
      receiver).handed? = some (expected receiver endOfMessage payload) := by
    rw [sending_cons]
    rfl
  rw [exchangeChunks, handed]
  simp only [exchanged, Option.bind_some]

theorem advanced_expectedSequence (fits : payload.length ≤ maxBlePayload) :
    (advanced receiver endOfMessage payload).assembler.expectedSequence =
      sequenceAfter receiver.assembler.expectedSequence := by
  rw [advanced, receiver.receive_expected endOfMessage fits]
  cases endOfMessage <;> rfl

variable (receiver endOfMessage chunks rest) in
theorem exchangeChunks_step (losses : List Loss) {loss : Loss} (keepsAck : loss ≠ .firstAck)
    (listens : world.Listens) (fits : payload.length ≤ maxBlePayload) :
    ∃ after : World, after.Listens ∧
      after.session.txSequence =
        (advanced receiver endOfMessage payload).assembler.expectedSequence ∧
      exchangeChunks (loss :: losses)
          (sending (expected receiver endOfMessage payload :: chunks) rest world receiver) =
        exchangeChunks losses
          (sending chunks rest after (advanced receiver endOfMessage payload)) := by
  rcases exchangeChunk_delivers receiver endOfMessage chunks rest keepsAck listens fits with
    ⟨after, listensAfter, advances, exchanged⟩
  refine ⟨after, listensAfter, ?_, exchangeChunks_cons exchanged⟩
  rw [advances, advanced_expectedSequence fits]

variable (rest) in
/-- Without a lost acknowledgement the receiver gets what is left of the frame. -/
theorem exchangeChunks_delivers {losses : List Loss} {frame : Bytes} {receiver : Receiver}
    {world : World} (keepsAcks : ∀ loss ∈ losses, loss ≠ .firstAck) (listens : world.Listens)
    {chunks : List Bytes}
    (cut : chunkForBle frame receiver.assembler.expectedSequence = .ok chunks)
    (many : losses.length = chunks.length) :
    ∃ (after : World) (later : Receiver),
      after.session.txSequence = later.assembler.expectedSequence ∧
      later.delivered = receiver.delivered ++ [receiver.assembler.buffer ++ frame] ∧
      exchangeChunks losses (sending chunks rest world receiver) =
        some ⟨eventLoop.settle (rest ()) after, later⟩ := by
  induction losses generalizing frame receiver world chunks with
  | nil =>
      rcases chunkForBle_cases cut receiver.assembler.expectedSequence_pos
        receiver.assembler.expectedSequence_le with ⟨_, rfl⟩ | ⟨later, _, rfl⟩
      · cases many
      · cases many
  | cons loss losses induction =>
      have keepsAck := keepsAcks loss List.mem_cons_self
      rcases chunkForBle_cases cut receiver.assembler.expectedSequence_pos
        receiver.assembler.expectedSequence_le with ⟨fits, rfl⟩ | ⟨later, cutLater, rfl⟩
      · have noMore : losses = [] := List.length_eq_zero_iff.mp (Nat.succ.inj many)
        rcases exchangeChunks_step receiver true [] rest [] keepsAck listens fits with
          ⟨after, _, sameSequence, exchanged⟩
        refine ⟨after, advanced receiver true frame, sameSequence, ?_, ?_⟩
        · rw [advanced, receiver.receive_expected true fits]
          rfl
        · rw [noMore]
          exact exchanged
      · have short : (frame.take maxBlePayload).length ≤ maxBlePayload := List.length_take_le _ _
        rcases exchangeChunks_step receiver false later rest losses keepsAck listens short with
          ⟨after, listensAfter, _, exchanged⟩
        rw [← advanced_expectedSequence short] at cutLater
        rcases induction (fun loss member => keepsAcks loss (List.mem_cons_of_mem _ member))
          listensAfter cutLater (Nat.succ.inj many) with
          ⟨last, lastReceiver, sameSequence, delivered, exchangedRest⟩
        refine ⟨last, lastReceiver, sameSequence, ?_, exchanged.trans exchangedRest⟩
        rw [delivered, advanced, receiver.receive_expected false short]
        simp [BleMessageAssembler.advance]

theorem exchangeChunks_lost (losses : List Loss) (fits : payload.length ≤ maxBlePayload) :
    ∃ error last later, exchangeChunks (.firstAck :: losses)
        (sending (expected receiver endOfMessage payload :: chunks) rest world receiver) =
      some ⟨⟨.done (.error error), last⟩, later⟩ := by
  rcases exchangeChunk_fails world receiver endOfMessage chunks rest fits with
    ⟨error, last, later, exchanged⟩
  rw [exchangeChunks_cons exchanged]
  cases losses with
  | nil => exact ⟨error, last, later, rfl⟩
  | cons _ _ => exact ⟨error, last, later, rfl⟩

variable (rest) in
/-- A lost acknowledgement ends the sender's call with an exception. -/
theorem exchangeChunks_fails {losses : List Loss} {frame : Bytes} {receiver : Receiver}
    {world : World} (losesAck : Loss.firstAck ∈ losses) (listens : world.Listens)
    {chunks : List Bytes}
    (cut : chunkForBle frame receiver.assembler.expectedSequence = .ok chunks)
    (many : losses.length = chunks.length) :
    ∃ error last later, exchangeChunks losses (sending chunks rest world receiver) =
      some ⟨⟨.done (.error error), last⟩, later⟩ := by
  induction losses generalizing frame receiver world chunks with
  | nil => cases losesAck
  | cons loss losses induction =>
      have short : (frame.take maxBlePayload).length ≤ maxBlePayload := List.length_take_le _ _
      by_cases isAck : loss = .firstAck
      · rw [isAck]
        rcases chunkForBle_cases cut receiver.assembler.expectedSequence_pos
          receiver.assembler.expectedSequence_le with ⟨fits, rfl⟩ | ⟨later, _, rfl⟩
        · exact exchangeChunks_lost losses fits
        · exact exchangeChunks_lost losses short
      · have losesAckLater : Loss.firstAck ∈ losses := by
          rcases List.mem_cons.mp losesAck with same | member
          · exact absurd same.symm isAck
          · exact member
        rcases chunkForBle_cases cut receiver.assembler.expectedSequence_pos
          receiver.assembler.expectedSequence_le with ⟨_, rfl⟩ | ⟨later, cutLater, rfl⟩
        · rw [List.length_eq_zero_iff.mp (Nat.succ.inj many)] at losesAckLater
          cases losesAckLater
        · rcases exchangeChunks_step receiver false later rest losses isAck listens short with
            ⟨after, listensAfter, _, exchanged⟩
          rw [← advanced_expectedSequence short] at cutLater
          rcases induction losesAckLater listensAfter cutLater (Nat.succ.inj many) with
            ⟨error, last, lastReceiver, exchangedRest⟩
          exact ⟨error, last, lastReceiver, exchanged.trans exchangedRest⟩

/-- The sender of a frame, up to its first suspension, and a receiver. -/
def start (frame : Bytes) (world : World) (receiver : Receiver) : Transfer :=
  ⟨eventLoop.settle (TiltBleSession.sendFrame frame true) world, receiver⟩

theorem start_eq_sending {frame : Bytes} {chunks : List Bytes} {world : World}
    (noResponse : world.session.responseQueue = [])
    (cut : chunkForBle frame world.session.txSequence = .ok chunks) (receiver : Receiver) :
    start frame world receiver =
      sending chunks (fun _ => TiltBleSession.awaitResponse) world receiver := by
  have settled : eventLoop.settle (TiltBleSession.sendFrame frame true) world =
      eventLoop.settle
        (if world.session.responseQueue.isEmpty then do
          let chunks ← Coroutine.ofExcept (chunkForBle frame world.session.txSequence)
          TiltBleSession.sendChunks true chunks
          TiltBleSession.awaitResponse
        else throw (.tiltBleError "Unexpected stale Tilt response before request.")) world := rfl
  rw [start, settled, noResponse, cut]
  rfl

/-- Whatever is lost of each chunk, the frame arrives as it should if and only if no
acknowledgement is lost. -/
theorem recovers_iff (frame : Bytes) (nonempty : frame ≠ []) (world : World) (receiver : Receiver)
    (listens : world.Listens) (noResponse : world.session.responseQueue = [])
    (sameSequence : world.session.txSequence = receiver.assembler.expectedSequence)
    (noChunk : receiver.assembler.buffer = []) (noMessage : receiver.delivered = []) :
    ∃ chunks, chunkForBle frame world.session.txSequence = .ok chunks ∧
      ∀ losses : List Loss, losses.length = chunks.length →
        ∃ last, exchangeChunks losses (start frame world receiver) = some last ∧
          (last.Recovers frame ↔ ∀ loss ∈ losses, loss ≠ .firstAck) := by
  rcases receiver.assembler.outcomes_chunkForBle nonempty with ⟨chunks, cut, _⟩
  have cutBySender : chunkForBle frame world.session.txSequence = .ok chunks := by
    rw [sameSequence]
    exact cut
  refine ⟨chunks, cutBySender, ?_⟩
  intro losses many
  rw [start_eq_sending noResponse cutBySender]
  by_cases keepsAcks : ∀ loss ∈ losses, loss ≠ .firstAck
  · rcases exchangeChunks_delivers (fun _ => TiltBleSession.awaitResponse) keepsAcks
      listens cut many with ⟨after, later, sameAfter, delivered, exchanged⟩
    refine ⟨_, exchanged, ?_⟩
    constructor
    · exact fun _ => keepsAcks
    · intro _
      constructor
      · exact ⟨_, rfl⟩
      · rw [delivered, noMessage, noChunk]
        rfl
      · exact sameAfter
  · have losesAck : Loss.firstAck ∈ losses := by
      by_contra absent
      apply keepsAcks
      intro loss member isAck
      rw [isAck] at member
      exact absent member
    rcases exchangeChunks_fails (fun _ => TiltBleSession.awaitResponse) losesAck listens
      cut many with ⟨error, last, later, exchanged⟩
    refine ⟨_, exchanged, ?_⟩
    constructor
    · intro recovers
      rcases recovers.acknowledged with ⟨resume, waits⟩
      cases waits
    · exact fun all => absurd all keepsAcks

/-- Two chunks, of which the first is lost once. -/
theorem recovers_iff_lostCopy : ∃ last,
    exchangeChunks [.firstCopy, .nothing]
        (start (List.replicate 20 7) .started ⟨.initial, []⟩) = some last ∧
      last.Recovers (List.replicate 20 7) := by
  rcases recovers_iff (List.replicate 20 7) nofun .started ⟨.initial, []⟩ ⟨rfl, rfl, rfl⟩ rfl rfl
    rfl rfl with ⟨chunks, cut, recovers⟩
  have isCut : chunkForBle (List.replicate 20 7) World.started.session.txSequence =
      .ok [dataChunk 1 false (List.replicate 18 7), dataChunk 2 true [7, 7]] := by decide
  cases isCut.symm.trans cut
  rcases recovers [.firstCopy, .nothing] rfl with ⟨last, exchanged, recoversIff⟩
  exact ⟨last, exchanged, recoversIff.mpr (by decide)⟩

/-- One chunk, whose acknowledgement is lost: the receiver has the message, but it
refuses the second copy, and the sender times out. -/
theorem lostAck_not_recovers : ∃ last,
    exchangeChunks [.firstAck] (start [7] .started ⟨.initial, []⟩) = some last ∧
      last.receiver.delivered = [[7]] ∧
      last.sender.code = .done (.error (.tiltBleTimeout
        "Timed out waiting for BLE ACK sequence 1.")) ∧
      ¬last.Recovers [7] := by
  have exchanged : (exchangeChunks [.firstAck] (start [7] .started ⟨.initial, []⟩)).map
      (fun last => (last.receiver.delivered, last.sender.code.outcome?)) =
        some ([[7]], some (.error (.tiltBleTimeout
          "Timed out waiting for BLE ACK sequence 1."))) := by
    decide +kernel
  rcases Option.map_eq_some_iff.mp exchanged with ⟨last, reached, same⟩
  have ended : last.sender.code = .done (.error (.tiltBleTimeout
      "Timed out waiting for BLE ACK sequence 1.")) :=
    Coroutine.outcome?_eq_some.mp (congrArg Prod.snd same)
  refine ⟨last, reached, congrArg Prod.fst same, ended, ?_⟩
  intro recovers
  rcases recovers.acknowledged with ⟨resume, waits⟩
  rw [ended] at waits
  cases waits

end Transfer

end SmartblindsBle
