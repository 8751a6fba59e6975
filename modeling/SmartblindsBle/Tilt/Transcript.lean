import SmartblindsBle.Foundation.Viewpoints
import SmartblindsBle.Tilt.CallerView
import SmartblindsBle.Tilt.ShadeSide

/-! # Transcripts

Scheduling decisions under which a shade acknowledges every chunk and answers
every request at once. They are the concrete runs on which the theorems about
all runs are tried out.
-/

namespace SmartblindsBle

open Foundation

abbrev SessionEvent : Type := Event Background Choice

/-- The task writes a chunk, and takes the acknowledgement. -/
def acknowledgeChunk (sequence : Nat) : List SessionEvent :=
  [.resume .completed, .background (.notify (bleAck sequence)), .background .work,
    .resume .completed]

/-- A frame of the shade arrives, and the worker acknowledges its chunks. -/
def deliverFrame (frame : Bytes) (sequence : Nat) : List SessionEvent :=
  match chunkForBle frame sequence with
  | .error _ => []
  | .ok chunks => chunks.flatMap fun chunk =>
      [.background (.notify chunk), .background .work, .background (.workWritten (.ok ()))]

/-- A request of one chunk and its reply, which the task takes from the queue. -/
def exchangeFrame (sequence : Nat) (reply : Bytes) (replySequence : Nat) : List SessionEvent :=
  acknowledgeChunk sequence ++ deliverFrame reply replySequence ++ [.resume .completed]

/-- The handshake of a shade that offers the protocols 1 and 2. -/
def answerHandshake (primitives : CryptoPrimitives) (key : PairingKey) (nonce : Bytes) :
    List SessionEvent :=
  [.resume .completed] ++ exchangeFrame 1 (versionsResponse [1, 2]) 1 ++
    [.resume .completed] ++ exchangeFrame 2 (selectionResponse 2) 2 ++
    [.resume .completed] ++ exchangeFrame 3 (nonceResponse primitives nonce key) 3 ++
    [.resume .completed]

/-- The client connects, notifications are started, and the handshake is answered. -/
def connectAndAuthenticate (primitives : CryptoPrimitives) (key : PairingKey) (nonce : Bytes) :
    List SessionEvent :=
  [.resume (.connected true), .resume (.connected true), .resume .completed] ++
    answerHandshake primitives key nonce

/-- The first status read of a session, under counter and message id 1. -/
def readFirstStatus (primitives : CryptoPrimitives) (key : PairingKey) (nonce : Bytes)
    (status : ShadeStatus) : List SessionEvent :=
  exchangeFrame 4 (encodeAppResponse primitives ShadeCommand.getStatus.value
    (statusPayload status) key.bytes nonce 1 1) 6

/-- The lock and the client are obtained, the client is connected, and notifications
are started. -/
def openSession : List SessionEvent :=
  [.resume .completed, .resume .completed, .resume (.connected true), .resume (.connected true),
    .resume .completed]

/-- The worker, the notifications and the connection end. -/
def closeSession : List SessionEvent :=
  [.resume .completed, .resume .completed, .resume .completed]

/-- What an observer sees of a run: the history, and the outcome if there is one. -/
def observe {Result : Type} (code : Async Result) (world : World) (events : List SessionEvent) :
    Option (List Action × Option (Raises Result)) :=
  (eventLoop.run (eventLoop.settle code world) events).map fun task =>
    (task.state.callerView.history, task.code.outcome?)

theorem observe_eq_some {Result : Type} {code : Async Result} {world : World}
    {events : List SessionEvent} {history : List Action} {outcome : Option (Raises Result)}
    (observed : observe code world events = some (history, outcome)) :
    ∃ task, eventLoop.run (eventLoop.settle code world) events = some task ∧
      task.state.callerView.history = history ∧ task.code.outcome? = outcome := by
  rcases Option.map_eq_some_iff.mp observed with ⟨task, reached, same⟩
  exact ⟨task, reached, congrArg Prod.fst same, congrArg Prod.snd same⟩

theorem observe_finished {Result : Type} {code : Async Result} {world : World}
    {events : List SessionEvent} {history : List Action} {outcome : Raises Result}
    (observed : observe code world events = some (history, some outcome)) :
    ∃ state, eventLoop.run (eventLoop.settle code world) events =
        some ⟨.done outcome, state⟩ ∧ state.callerView.history = history := by
  rcases observe_eq_some observed with ⟨⟨last, state⟩, reached, same, ended⟩
  have isDone : last = .done outcome := Coroutine.outcome?_eq_some.mp ended
  subst isDone
  exact ⟨state, reached, same⟩

/-- Nothing fails. -/
def faultless : Admission World Operation Background Choice where
  background action _ := match action with
    | .workWritten (.error _) => False
    | _ => True
  answer _ choice _ := match choice with
    | .failed _ => False
    | _ => True

instance (action : Background) (world : World) :
    Decidable (faultless.background action world) := by
  cases action with
  | workWritten outcome =>
      cases outcome with
      | error error => exact .isFalse id
      | ok _ => exact .isTrue trivial
  | _ => exact .isTrue trivial

instance (operation : Operation) (choice : Choice) (world : World) :
    Decidable (faultless.answer operation choice world) := by
  cases choice with
  | failed error => exact .isFalse id
  | _ => exact .isTrue trivial

/-! ## Sample values -/

def sampleClient : TiltShadeClient := ⟨"shade", .zero, false⟩

/-- The chunk with sequence number 5 that commands 50 percent under counter and
message id 2. -/
def positionChunk : Bytes := dataChunk 5 true [0, 2, 2, 19, 244, 1, 100, 247, 158]

/-- A closed shade with a full battery. -/
def ShadeStatus.closed : ShadeStatus where
  rawPosition := 0
  batteryPercent := 100
  chargeStatus := 0
  calibrated := true
  rawPosition_le := by decide
  batteryPercent_le := by decide

end SmartblindsBle
