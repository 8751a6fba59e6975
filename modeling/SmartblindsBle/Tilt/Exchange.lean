import SmartblindsBle.Tilt.Situation
import SmartblindsBle.Tilt.Streams

/-! # One request and its reply

The stages of an exchange between the session and the shade, and that no step of
the worker, the links or the shade leaves them but forward.
-/

namespace SmartblindsBle

open Foundation

/-! ## The shade's side -/

namespace Shade

theorem receive_bleAck {shade : Shade} {chunk : Bytes} {rest : List Bytes}
    (unsent : shade.unsent = chunk :: rest) (awaits : shade.awaitsAck = true)
    (isCurrent : chunkSequence chunk = shade.txSequence) (positive : 1 ≤ shade.txSequence)
    (bound : shade.txSequence ≤ maxSequence) :
    shade.receive (bleAck shade.txSequence) =
      ({ shade with
          unsent := rest
          awaitsAck := false
          txSequence := sequenceAfter shade.txSequence }, []) := by
  rw [receive, parseBleChunk_bleAck]
  simp only [if_true, parseBleAck_bleAck positive bound, unsent, awaits, isCurrent]

theorem receive_request {shade : Shade} {request : Bytes} (fits : request.length ≤ maxBlePayload)
    (noBuffer : shade.assembler.buffer = []) :
    shade.receive (dataChunk shade.assembler.expectedSequence true request) =
      ({ shade with
          assembler := shade.assembler.advance []
          requests := shade.requests ++ [request] },
        [bleAck shade.assembler.expectedSequence]) := by
  have positive := shade.assembler.expectedSequence_pos
  have bound := shade.assembler.expectedSequence_le
  rw [receive, parseBleChunk_dataChunk positive bound true fits,
    BleMessageAssembler.add_dataChunk _ true fits]
  simp [makeBleAck_eq positive bound, noBuffer]

end Shade

/-! ## The reply -/

/-- The chunks of what is left of a frame; nothing is left to be cut at its end. -/
def Cuts (rest : Bytes) (sequence : Nat) (chunks : List Bytes) : Prop :=
  rest = [] ∧ chunks = [] ∨ chunkForBle rest sequence = .ok chunks

/-- Of the shade's reply, `rest` has not been received; what the shade, the uplink and
the notifications hold of it. -/
inductive Sends (rest : Bytes) (sequence : Nat) (uplink notifications : List Bytes)
    (shade : Shade) : Prop
  /-- The next chunk has not been emitted. -/
  | ready (cut : Cuts rest sequence shade.unsent) (awaits : shade.awaitsAck = false)
      (current : shade.txSequence = sequence) (noWrite : uplink = [])
      (noNotification : notifications = [])
  /-- The next chunk is on its way. -/
  | emitted (chunk : Bytes) (more : List Bytes)
      (cut : chunkForBle rest sequence = .ok (chunk :: more))
      (unsent : shade.unsent = chunk :: more)
      (awaits : shade.awaitsAck = true) (current : shade.txSequence = sequence)
      (noWrite : uplink = []) (notified : notifications = [chunk])
  /-- The acknowledgement of the last chunk is on its way. -/
  | acknowledged (chunk : Bytes) (more : List Bytes) (cut : Cuts rest sequence more)
      (unsent : shade.unsent = chunk :: more) (awaits : shade.awaitsAck = true)
      (current : chunkSequence chunk = shade.txSequence) (positive : 1 ≤ shade.txSequence)
      (bound : shade.txSequence ≤ maxSequence) (next : sequence = sequenceAfter shade.txSequence)
      (written : uplink = [bleAck shade.txSequence]) (noNotification : notifications = [])

/-- Of the shade's reply, `rest` has not been received; what the session holds of it. -/
inductive Receives (reply rest : Bytes) (assembler : BleMessageAssembler)
    (worker : Option NotificationWorker) (responseQueue : List ResponseItem) : Prop
  | incomplete (more : rest ≠ []) (parts : assembler.buffer ++ rest = reply)
      (working : worker = some .waiting ∨ worker = some (.acknowledging none))
      (noResponse : responseQueue = [])
  | completed (whole : rest = []) (noBuffer : assembler.buffer = [])
      (working : worker = some (.acknowledging (some reply))) (noResponse : responseQueue = [])
  | queued (whole : rest = []) (noBuffer : assembler.buffer = [])
      (working : worker = some .waiting) (response : responseQueue = [.message reply])

/-- The session has no part of a reply. -/
structure Situation.Listening (situation : Situation) : Prop where
  noBuffer : situation.assembler.buffer = []
  waiting : situation.worker = some .waiting
  noResponse : situation.responseQueue = []

theorem Sends.few {rest : Bytes} {sequence : Nat} {uplink notifications : List Bytes}
    {shade : Shade} (sends : Sends rest sequence uplink notifications shade) :
    notifications.length ≤ 1 := by
  cases sends with
  | ready _ _ _ _ noNotification => simp [noNotification]
  | emitted chunk more _ _ _ _ _ notified => simp [notified]
  | acknowledged chunk more _ _ _ _ _ _ _ _ noNotification => simp [noNotification]

theorem Sends.receive {rest data : Bytes} {sequence : Nat} {uplink notifications : List Bytes}
    {shade : Shade} (sends : Sends rest sequence (data :: uplink) notifications shade) :
    uplink = [] ∧ ∃ more next, shade.receive data =
        ({ shade with unsent := more, awaitsAck := false, txSequence := next }, []) ∧
      Sends rest sequence [] notifications
        { shade with unsent := more, awaitsAck := false, txSequence := next } := by
  cases sends with
  | ready _ _ _ noWrite _ => cases noWrite
  | emitted chunk more _ _ _ _ noWrite _ => cases noWrite
  | acknowledged chunk more cut unsent awaits current positive bound next written noNotification =>
      cases written
      refine ⟨rfl, more, sequenceAfter shade.txSequence,
        Shade.receive_bleAck unsent awaits current positive bound, ?_⟩
      exact .ready cut rfl next.symm rfl noNotification

theorem Sends.emit {rest chunk : Bytes} {sequence : Nat} {uplink notifications : List Bytes}
    {shade after : Shade} (sends : Sends rest sequence uplink notifications shade)
    (emitted : shade.emit = some (after, chunk)) :
    after = { shade with awaitsAck := true } ∧
      Sends rest sequence uplink (notifications ++ [chunk]) after := by
  unfold Shade.emit at emitted
  split at emitted
  · next first more unsent notAwaiting =>
      cases emitted
      refine ⟨rfl, ?_⟩
      cases sends with
      | ready cut _ current noWrite noNotification =>
          rcases cut with ⟨_, noChunk⟩ | cut
          · rw [unsent] at noChunk
            cases noChunk
          · rw [unsent] at cut
            exact .emitted chunk more cut unsent rfl current noWrite (by rw [noNotification]; rfl)
      | emitted _ _ _ _ awaits => cases notAwaiting.symm.trans awaits
      | acknowledged _ _ _ _ awaits => cases notAwaiting.symm.trans awaits
  · cases emitted

/-- A notification that the session takes is the next chunk of the reply. -/
theorem Sends.accept {rest data : Bytes} {sequence : Nat} {uplink notifications : List Bytes}
    {shade : Shade} (positive : 1 ≤ sequence) (bound : sequence ≤ maxSequence)
    (sends : Sends rest sequence uplink (data :: notifications) shade) :
    notifications = [] ∧ uplink = [] ∧ ∃ endOfMessage payload later,
      data = dataChunk sequence endOfMessage payload ∧ payload.length ≤ maxBlePayload ∧
        rest = payload ++ later ∧ (endOfMessage = true ↔ later = []) ∧
        Sends later (sequenceAfter sequence) [bleAck sequence] [] shade := by
  cases sends with
  | ready _ _ _ _ noNotification => cases noNotification
  | acknowledged _ _ _ _ _ _ _ _ _ _ noNotification => cases noNotification
  | emitted chunk more cut unsent awaits current noWrite notified =>
      cases notified
      refine ⟨rfl, noWrite, ?_⟩
      have acknowledged (later : Bytes) (endOfMessage : Bool) (payload : Bytes)
          (isChunk : data = dataChunk sequence endOfMessage payload)
          (cutLater : Cuts later (sequenceAfter sequence) more) :
          Sends later (sequenceAfter sequence) [bleAck sequence] [] shade := by
        have isCurrent : chunkSequence data = shade.txSequence := by
          rw [isChunk, current]
          exact chunkFlags_sequence bound endOfMessage
        rw [← current] at cutLater positive bound ⊢
        exact .acknowledged data more cutLater unsent awaits isCurrent positive bound rfl rfl rfl
      rcases chunkForBle_cases cut positive bound with ⟨fits, single⟩ | ⟨chunks, cutLater, several⟩
      · cases single
        exact ⟨true, rest, [], rfl, fits, (List.append_nil rest).symm, by simp,
          acknowledged [] true rest rfl (.inl ⟨rfl, rfl⟩)⟩
      · cases several
        have more : rest.drop maxBlePayload ≠ [] := by
          intro isEmpty
          rw [chunkForBle, if_pos isEmpty] at cutLater
          cases cutLater
        refine ⟨false, rest.take maxBlePayload, rest.drop maxBlePayload, rfl,
          List.length_take_le _ _, (List.take_append_drop _ _).symm, ?_,
          acknowledged _ false _ rfl (.inr cutLater)⟩
        simp [more]

theorem Receives.accept {reply payload later : Bytes} {endOfMessage : Bool}
    {assembler : BleMessageAssembler} {responseQueue : List ResponseItem} {rest : Bytes}
    (receives : Receives reply rest assembler (some .waiting) responseQueue)
    (isNext : rest = payload ++ later) (isLast : endOfMessage = true ↔ later = [])
    (more : rest ≠ []) :
    Receives reply later
      (assembler.advance (if endOfMessage then [] else assembler.buffer ++ payload))
      (some (.acknowledging (if endOfMessage then some (assembler.buffer ++ payload) else none)))
      responseQueue := by
  cases receives with
  | completed whole => exact absurd whole more
  | queued whole => exact absurd whole more
  | incomplete _ parts _ noResponse =>
      rw [isNext, ← List.append_assoc] at parts
      cases endOfMessage with
      | true =>
          have noMore : later = [] := isLast.mp rfl
          rw [noMore, List.append_nil] at parts
          exact .completed noMore rfl (by rw [if_pos rfl, parts]) noResponse
      | false =>
          have moreLater : later ≠ [] := by
            intro noMore
            cases isLast.mpr noMore
          exact .incomplete moreLater parts (.inr rfl) noResponse

theorem Receives.written {reply rest : Bytes} {assembler : BleMessageAssembler}
    {message : Option Bytes} {responseQueue : List ResponseItem}
    (receives : Receives reply rest assembler (some (.acknowledging message)) responseQueue) :
    responseQueue = [] ∧ Receives reply rest assembler (some .waiting)
      (message.toList.map ResponseItem.message) := by
  cases receives with
  | queued _ _ working => cases working
  | completed whole noBuffer working noResponse =>
      cases working
      exact ⟨noResponse, .queued whole noBuffer rfl rfl⟩
  | incomplete more parts working noResponse =>
      rcases working with isWaiting | isAcknowledging
      · cases isWaiting
      · cases isAcknowledging
        exact ⟨noResponse, .incomplete more parts (.inl rfl) rfl⟩

/-! ## Between a request and its reply -/

/-- A request of one chunk and the shade's reply to it; how many status requests have
been answered before and after. -/
structure Exchange (primitives : CryptoPrimitives) (setup : ShadeSetup) where
  request : Bytes
  reply : Bytes
  readsBefore : Nat
  readsAfter : Nat
  requestNonempty : request ≠ []
  requestFits : request.length ≤ maxBlePayload
  replyNonempty : reply ≠ []
  handled : setup.handleRequest primitives request readsBefore = .ok (reply, readsAfter)

theorem Sends.more {rest : Bytes} {sequence : Nat} {uplink notifications : List Bytes}
    {shade : Shade} (sends : Sends rest sequence uplink notifications shade)
    (notified : notifications ≠ []) : rest ≠ [] := by
  cases sends with
  | ready _ _ _ _ noNotification => exact absurd noNotification notified
  | acknowledged _ _ _ _ _ _ _ _ _ _ noNotification => exact absurd noNotification notified
  | emitted chunk more cut =>
      intro isEmpty
      rw [chunkForBle, if_pos isEmpty] at cut
      cases cut

theorem Sends.besides {rest : Bytes} {sequence : Nat} {uplink notifications : List Bytes}
    {shade : Shade} (sends : Sends rest sequence uplink notifications shade)
    (assembler : BleMessageAssembler) (requests : List Bytes) :
    Sends rest sequence uplink notifications
      { shade with assembler := assembler, requests := requests } := by
  cases sends with
  | ready cut awaits current noWrite noNotification =>
      exact .ready cut awaits current noWrite noNotification
  | emitted chunk more cut unsent awaits current noWrite notified =>
      exact .emitted chunk more cut unsent awaits current noWrite notified
  | acknowledged chunk more cut unsent awaits current positive bound next written
      noNotification =>
      exact .acknowledged chunk more cut unsent awaits current positive bound next written
        noNotification

theorem Sends.idle {rest : Bytes} {sequence : Nat} {uplink notifications : List Bytes}
    {shade : Shade} (sends : Sends rest sequence uplink notifications shade)
    (noChunk : shade.unsent = []) :
    shade.awaitsAck = false ∧ shade.txSequence = sequence ∧ uplink = [] ∧ notifications = [] := by
  cases sends with
  | ready _ awaits current noWrite noNotification =>
      exact ⟨awaits, current, noWrite, noNotification⟩
  | emitted _ _ _ unsent => cases noChunk.symm.trans unsent
  | acknowledged _ _ _ unsent => cases noChunk.symm.trans unsent

section Quiet

variable {rest : Bytes} {sequence : Nat} {shade : Shade}

theorem Sends.quiet (sends : Sends rest sequence [] [] shade) :
    shade.awaitsAck = false ∧ shade.txSequence = sequence := by
  cases sends with
  | ready _ awaits current => exact ⟨awaits, current⟩
  | emitted _ _ _ _ _ _ _ notified => cases notified
  | acknowledged _ _ _ _ _ _ _ _ _ written => cases written

theorem Sends.quiet_cuts (sends : Sends rest sequence [] [] shade) :
    Cuts rest sequence shade.unsent := by
  cases sends with
  | ready cut => exact cut
  | emitted _ _ _ _ _ _ _ notified => cases notified
  | acknowledged _ _ _ _ _ _ _ _ _ written => cases written

theorem Sends.quiet_unsent (sends : Sends [] sequence [] [] shade) : shade.unsent = [] := by
  rcases sends.quiet_cuts with ⟨_, noChunk⟩ | cut
  · exact noChunk
  · rw [chunkForBle, if_pos rfl] at cut
    cases cut

theorem Sends.quiet_more (more : rest ≠ []) (positive : 1 ≤ sequence)
    (bound : sequence ≤ maxSequence) (sends : Sends rest sequence [] [] shade) :
    shade.unsent ≠ [] := by
  rcases sends.quiet_cuts with ⟨noMore, _⟩ | cut
  · exact absurd noMore more
  · rcases chunkForBle_cases cut positive bound with ⟨_, single⟩ | ⟨later, _, several⟩
    · rw [single]
      exact List.cons_ne_nil _ _
    · rw [several]
      exact List.cons_ne_nil _ _

end Quiet

namespace Exchange

variable {primitives : CryptoPrimitives} {setup : ShadeSetup}

/-- The shade has the request, and the session has not taken the reply. The
notifications are those that follow the acknowledgement of the request. -/
inductive Responds (exchange : Exchange primitives setup) (notifications : List Bytes)
    (situation : Situation) : Prop
  | pending (requested : situation.shade.requests = [exchange.request])
      (reads : situation.shade.statusReads = exchange.readsBefore)
      (listening : situation.Listening)
      (sends : Sends [] situation.assembler.expectedSequence situation.uplink notifications
        situation.shade)
  | replying (rest : Bytes) (noRequest : situation.shade.requests = [])
      (reads : situation.shade.statusReads = exchange.readsAfter)
      (receives : Receives exchange.reply rest situation.assembler situation.worker
        situation.responseQueue)
      (sends : Sends rest situation.assembler.expectedSequence situation.uplink notifications
        situation.shade)

variable {exchange : Exchange primitives setup} {notifications : List Bytes}
variable {situation : Situation}

theorem Responds.write {data : Bytes} {uplink : List Bytes}
    (responds : exchange.Responds notifications situation)
    (written : situation.uplink = data :: uplink) (held : List Bytes) :
    (situation.shade.receive data).2 = [] ∧
      (situation.shade.receive data).1.assembler = situation.shade.assembler ∧
      exchange.Responds notifications { situation with
        uplink := uplink
        notifications := held
        shade := (situation.shade.receive data).1 } := by
  cases responds with
  | pending requested reads listening sends =>
      rw [written] at sends
      rcases sends.receive with ⟨noMore, more, next, received, sendsAfter⟩
      rw [received, noMore]
      exact ⟨rfl, rfl, .pending requested reads
        ⟨listening.noBuffer, listening.waiting, listening.noResponse⟩ sendsAfter⟩
  | replying rest noRequest reads receives sends =>
      rw [written] at sends
      rcases sends.receive with ⟨noMore, more, next, received, sendsAfter⟩
      rw [received, noMore]
      exact ⟨rfl, rfl, .replying rest noRequest reads receives sendsAfter⟩

theorem Responds.written {message : Option Bytes}
    (responds : exchange.Responds notifications situation)
    (writing : situation.worker = some (.acknowledging message)) :
    situation.responseQueue = [] ∧ exchange.Responds notifications { situation with
      worker := some .waiting
      responseQueue := message.toList.map ResponseItem.message } := by
  cases responds with
  | pending requested reads listening sends => cases writing.symm.trans listening.waiting
  | replying rest noRequest reads receives sends =>
      rw [writing] at receives
      exact ⟨receives.written.1, .replying rest noRequest reads receives.written.2 sends⟩

theorem Responds.respond {shade : Shade} (responds : exchange.Responds notifications situation)
    (responded : situation.shade.respond primitives setup = some shade) :
    shade.assembler = situation.shade.assembler ∧
      exchange.Responds notifications { situation with shade := shade } := by
  cases responds with
  | replying rest noRequest reads receives sends =>
      rw [Shade.respond, noRequest] at responded
      cases responded
  | pending requested reads listening sends =>
      simp only [Shade.respond, requested] at responded
      split at responded
      · next isRequest noChunk =>
          cases isRequest
          rcases sends.idle noChunk with ⟨awaits, current, noWrite, noNotification⟩
          rcases situation.assembler.outcomes_chunkForBle exchange.replyNonempty with
            ⟨chunks, cut, _⟩
          rw [← current] at cut
          rw [reads, exchange.handled] at responded
          simp only [cut] at responded
          cases responded
          rw [current] at cut
          refine ⟨rfl, .replying exchange.reply rfl rfl ?_ ?_⟩
          · apply Receives.incomplete exchange.replyNonempty
            · rw [listening.noBuffer, List.nil_append]
            · exact .inl listening.waiting
            · exact listening.noResponse
          · exact .ready (.inr cut) awaits current noWrite noNotification
      · cases responded

theorem Responds.emit {shade : Shade} {chunk : Bytes}
    (responds : exchange.Responds notifications situation)
    (emitted : situation.shade.emit = some (shade, chunk)) (held : List Bytes) :
    shade.assembler = situation.shade.assembler ∧
      exchange.Responds (notifications ++ [chunk])
        { situation with notifications := held, shade := shade } := by
  cases responds with
  | pending requested reads listening sends =>
      rcases sends.emit emitted with ⟨rfl, sendsAfter⟩
      exact ⟨rfl, .pending requested reads
        ⟨listening.noBuffer, listening.waiting, listening.noResponse⟩ sendsAfter⟩
  | replying rest noRequest reads receives sends =>
      rcases sends.emit emitted with ⟨rfl, sendsAfter⟩
      exact ⟨rfl, .replying rest noRequest reads receives sendsAfter⟩

theorem Responds.accept {data : Bytes}
    (responds : exchange.Responds (data :: notifications) situation)
    (waiting : situation.worker = some .waiting) :
    notifications = [] ∧ ∃ endOfMessage payload,
      data = dataChunk situation.assembler.expectedSequence endOfMessage payload ∧
        payload.length ≤ maxBlePayload ∧ exchange.Responds [] { situation with
          notifications := []
          assembler := situation.assembler.advance
            (if endOfMessage then [] else situation.assembler.buffer ++ payload)
          worker := some (.acknowledging
            (if endOfMessage then some (situation.assembler.buffer ++ payload) else none))
          uplink := situation.uplink ++ [bleAck situation.assembler.expectedSequence] } := by
  cases responds with
  | pending requested reads listening sends => exact absurd rfl (sends.more (List.cons_ne_nil _ _))
  | replying rest noRequest reads receives sends =>
      have more := sends.more (List.cons_ne_nil _ _)
      rcases sends.accept situation.assembler.expectedSequence_pos
        situation.assembler.expectedSequence_le with
        ⟨noMore, noWrite, endOfMessage, payload, later, isChunk, fits, isNext, isLast, sendsAfter⟩
      rw [waiting] at receives
      refine ⟨noMore, endOfMessage, payload, isChunk, fits, .replying later noRequest reads
        (receives.accept isNext isLast more) ?_⟩
      rw [noWrite]
      exact sendsAfter

end Exchange

end SmartblindsBle
