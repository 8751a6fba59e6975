import SmartblindsBle.Tilt.Conversation

/-! # Sequence numbers of consecutive chunks

A receiver may drop a chunk that repeats the last sequence number as a
duplicate. That is safe as long as the sender repeats a number only to send the
same chunk again.
-/

namespace SmartblindsBle

open Foundation

/-- A chunk has the next sequence number, or it is the same chunk again. -/
def Follows (earlier later : Bytes) : Prop :=
  nextSequence (chunkSequence earlier) = .ok (chunkSequence later) ∨
    (chunkSequence later = chunkSequence earlier ∧ later = earlier)

/-- The chunk that was handed out last, and whether it has been acknowledged. -/
def lastHanded (history : List Action) : Option (Bytes × Bool) :=
  history.foldl (fun last action =>
    match action with
    | .handed chunk => some (chunk, false)
    | .confirmed _ => last.map fun (chunk, _) => (chunk, true)
    | _ => last) none

/-- Each chunk follows the one that was handed out before it. -/
def FollowsLast (before : List Action) (chunk : Bytes) : Prop :=
  ∀ earlier acknowledged, lastHanded before = some (earlier, acknowledged) →
    Follows earlier chunk

/-- No chunk waits for its acknowledgement. -/
def Settled (history : List Action) : Prop :=
  ∀ chunk, lastHanded history ≠ some (chunk, false)

/-- A new request is sent only when the last chunk has been acknowledged. -/
def SettledRequests (history : List Action) : Prop :=
  ∀ before counter messageId frame chunk after,
    history = before ++ .requested counter messageId frame :: .handed chunk :: after →
    Settled before

/-! ## Histories that grow -/

section Growth

variable {history : List Action}

@[simp] theorem lastHanded_handed (chunk : Bytes) :
    lastHanded (history ++ [.handed chunk]) = some (chunk, false) := by
  simp [lastHanded]

@[simp] theorem lastHanded_confirmed (sequence : Nat) :
    lastHanded (history ++ [.confirmed sequence]) =
      (lastHanded history).map fun (chunk, _) => (chunk, true) := by
  simp [lastHanded]

theorem lastHanded_append (action : Action) (notHanded : ∀ chunk, action ≠ .handed chunk)
    (notConfirmed : ∀ sequence, action ≠ .confirmed sequence) :
    lastHanded (history ++ [action]) = lastHanded history := by
  rw [lastHanded, List.foldl_append]
  cases action with
  | handed chunk => exact absurd rfl (notHanded chunk)
  | confirmed sequence => exact absurd rfl (notConfirmed sequence)
  | _ => rfl

theorem received_ne_handed {reply : Bytes} (chunk : Bytes) :
    Action.received reply ≠ .handed chunk := nofun

theorem received_ne_confirmed {reply : Bytes} (sequence : Nat) :
    Action.received reply ≠ .confirmed sequence := nofun

theorem requested_ne_handed {counter messageId : Int} {frame : Raises Bytes} (chunk : Bytes) :
    Action.requested counter messageId frame ≠ .handed chunk := nofun

theorem requested_ne_confirmed {counter messageId : Int} {frame : Raises Bytes}
    (sequence : Nat) : Action.requested counter messageId frame ≠ .confirmed sequence := nofun

theorem SettledRequests.earlier {before after : List Action} (settled : SettledRequests after)
    (grows : before <+: after) : SettledRequests before := by
  rintro first counter messageId frame chunk rest rfl
  rcases grows with ⟨more, rfl⟩
  apply settled first counter messageId frame chunk (rest ++ more)
  simp

/-! The condition on the requests is decided position by position. -/

/-- A request at this position may be sent. -/
private def settledAt (before after : List Action) : Bool :=
  match after with
  | .requested _ _ _ :: .handed _ :: _ => (lastHanded before).all Prod.snd
  | _ => true

private theorem settled_iff {before : List Action} :
    Settled before ↔ (lastHanded before).all Prod.snd = true := by
  unfold Settled
  cases lastHanded before with
  | none => simp
  | some last =>
      rcases last with ⟨chunk, acknowledged⟩
      cases acknowledged <;> simp

private theorem settledRequests_iff {history : List Action} :
    SettledRequests history ↔
      ∀ position < history.length,
        settledAt (history.take position) (history.drop position) = true := by
  constructor
  · intro settled position _
    unfold settledAt
    split
    · next counter messageId frame chunk after same =>
        apply settled_iff.mp
        apply settled _ counter messageId frame chunk after
        rw [← same, List.take_append_drop]
    · rfl
  · rintro every before counter messageId frame chunk after rfl
    have here := every before.length (by simp)
    rw [List.take_left' rfl, List.drop_left' rfl] at here
    exact settled_iff.mpr here

instance (history : List Action) : Decidable (SettledRequests history) :=
  decidable_of_iff _ settledRequests_iff.symm

end Growth

/-! ## The invariant -/

/-- The transmit sequence continues the last chunk once it is acknowledged. -/
structure Tracked (view : CallerView) : Prop where
  everyHanded : EveryHanded FollowsLast view.history
  inRange : 1 ≤ view.txSequence ∧ view.txSequence ≤ maxSequence
  last : ∀ chunk acknowledged, lastHanded view.history = some (chunk, acknowledged) →
    (1 ≤ chunkSequence chunk ∧ chunkSequence chunk ≤ maxSequence) ∧
      view.txSequence =
        if acknowledged then sequenceAfter (chunkSequence chunk) else chunkSequence chunk

section Tracking

variable {network : Network} {primitives : CryptoPrimitives} {key : PairingKey}
variable {start later : CallerView} {frame : Bytes} {attempts : Nat}

theorem chunkSequence_chunkOf (frame : Bytes) (view : CallerView)
    (inRange : 1 ≤ view.txSequence ∧ view.txSequence ≤ maxSequence) :
    chunkSequence (view.chunkOf frame) = view.txSequence :=
  chunkFlags_sequence inRange.2 true

theorem Tracked.record {view : CallerView} (tracked : Tracked view) {action : Action}
    (notHanded : ∀ chunk, action ≠ .handed chunk)
    (notConfirmed : ∀ sequence, action ≠ .confirmed sequence) : Tracked (view.record action) := by
  refine ⟨tracked.everyHanded.append_other notHanded, tracked.inRange, ?_⟩
  intro chunk acknowledged last
  apply tracked.last chunk acknowledged
  rwa [← lastHanded_append action notHanded notConfirmed]

/-- The copies of a chunk: the first one follows the last chunk before it, and
the others repeat it. -/
theorem Tracked.hand (tracked : Tracked start) (settled : Settled start.history) (copies : Nat) :
    Tracked (start.hand (start.chunkOf frame) (copies + 1)) ∧
      lastHanded (start.hand (start.chunkOf frame) (copies + 1)).history =
        some (start.chunkOf frame, false) := by
  have sequence := chunkSequence_chunkOf frame start tracked.inRange
  have one : ∀ copies, EveryHanded FollowsLast (start.hand (start.chunkOf frame) copies).history →
      FollowsLast (start.hand (start.chunkOf frame) copies).history (start.chunkOf frame) →
      Tracked (start.hand (start.chunkOf frame) (copies + 1)) ∧
        lastHanded (start.hand (start.chunkOf frame) (copies + 1)).history =
          some (start.chunkOf frame, false) := by
    intro copies every follows
    rw [← CallerView.hand_succ]
    refine ⟨⟨every.append ?_, tracked.inRange, ?_⟩, lastHanded_handed _⟩
    · rintro chunk isHanded
      cases isHanded
      exact follows
    · intro chunk acknowledged last
      cases (lastHanded_handed _).symm.trans last
      rw [sequence]
      exact ⟨tracked.inRange, rfl⟩
  induction copies with
  | zero =>
      apply one 0
      · rw [CallerView.hand_zero]
        exact tracked.everyHanded
      · rw [CallerView.hand_zero]
        intro earlier acknowledged last
        have position := tracked.last earlier acknowledged last
        cases acknowledged with
        | false => exact absurd last (settled earlier)
        | true =>
            refine .inl ?_
            rw [sequence, position.2]
            exact nextSequence_eq position.1.1 position.1.2
  | succ copies induction =>
      apply one (copies + 1) induction.1.everyHanded
      intro earlier acknowledged last
      cases induction.2.symm.trans last
      exact .inr ⟨rfl, rfl⟩

theorem Tracked.confirm {view : CallerView} {chunk : Bytes} (tracked : Tracked view)
    (last : lastHanded view.history = some (chunk, false)) :
    Tracked view.confirm ∧ lastHanded view.confirm.history = some (chunk, true) := by
  have position := tracked.last chunk false last
  have confirmed : lastHanded view.confirm.history = some (chunk, true) := by
    change lastHanded (view.history ++ [.confirmed view.txSequence]) = some (chunk, true)
    rw [lastHanded_confirmed, last]
    rfl
  refine ⟨⟨tracked.everyHanded.append_other nofun, ?_, ?_⟩, confirmed⟩
  · exact ⟨sequenceAfter_pos _, sequenceAfter_le tracked.inRange.2⟩
  · intro other acknowledged same
    cases confirmed.symm.trans same
    refine ⟨position.1, ?_⟩
    change sequenceAfter view.txSequence = sequenceAfter (chunkSequence chunk)
    exact congrArg sequenceAfter position.2

/-- Sending a frame when nothing waits for an acknowledgement. -/
theorem Tracked.sending (tracked : Tracked start)
    (settled : start.history ≠ later.history → Settled start.history)
    (sends : Sending frame attempts start later) : Tracked later := by
  have grows : ∀ {copies : Nat} {actions : List Action}, 1 ≤ copies →
      start.history ≠ (start.hand (start.chunkOf frame) copies).history ++ actions := by
    intro copies actions positive same
    have lengths := congrArg List.length same
    simp only [CallerView.hand, List.length_append, List.length_replicate] at lengths
    omega
  have handed : ∀ {copies : Nat} {actions : List Action}, 1 ≤ copies →
      later.history = (start.hand (start.chunkOf frame) copies).history ++ actions →
      Tracked (start.hand (start.chunkOf frame) copies) ∧
        lastHanded (start.hand (start.chunkOf frame) copies).history =
          some (start.chunkOf frame, false) := by
    intro copies actions positive same
    have ready := settled (same ▸ grows positive)
    obtain ⟨more, rfl⟩ : ∃ more, copies = more + 1 := ⟨copies - 1, by omega⟩
    exact tracked.hand ready more
  cases sends with
  | handing copies bound =>
      cases copies with
      | zero =>
          rw [CallerView.hand_zero]
          exact tracked
      | succ copies => exact (handed (by omega) (List.append_nil _).symm).1
  | confirmed copies positive bound =>
      have sent := handed positive rfl
      exact (sent.1.confirm sent.2).1
  | received copies positive bound reply =>
      have sent := handed positive (List.append_assoc _ _ _)
      exact (sent.1.confirm sent.2).1.record received_ne_handed received_ne_confirmed

theorem HandshakeStep.settled {Value : Type} {check : Bytes → Raises Value} {value : Value}
    (step : HandshakeStep network frame check start (.ok value) later) :
    Settled later.history := by
  rcases step with ⟨reply, sent, outcome⟩
  cases sent with
  | refused isOrdinary => cases outcome
  | unconfirmed copies positive bound isOrdinary => cases outcome
  | unanswered copies positive bound isOrdinary => cases outcome
  | answered copies positive bound reply admitted =>
      intro chunk last
      change lastHanded (_ ++ [.confirmed start.txSequence] ++ [.received reply]) = _ at last
      rw [lastHanded_append (.received reply) received_ne_handed received_ne_confirmed,
        lastHanded_confirmed] at last
      rcases Option.map_eq_some_iff.mp last with ⟨⟨earlier, acknowledged⟩, _, same⟩
      cases same

theorem Tracked.authenticating (tracked : Tracked start) (settled : Settled start.history)
    (authenticating : Authenticating network primitives key start later) : Tracked later := by
  cases authenticating with
  | versions sends => exact tracked.sending (fun _ => settled) sends
  | selection versions sends =>
      exact (tracked.sending (fun _ => settled) versions.sending).sending
        (fun _ => HandshakeStep.settled versions) sends
  | nonce versions selection sends =>
      exact ((tracked.sending (fun _ => settled) versions.sending).sending
        (fun _ => HandshakeStep.settled versions) selection.sending).sending
        (fun _ => HandshakeStep.settled selection) sends
  | verified versions selection proof =>
      have third := ((tracked.sending (fun _ => settled) versions.sending).sending
        (fun _ => HandshakeStep.settled versions) selection.sending).sending
        (fun _ => HandshakeStep.settled selection) proof.sending
      exact ⟨third.everyHanded, third.inRange, third.last⟩

theorem Sending.grows (sends : Sending frame attempts start later) :
    later.history = start.history ∨
      ∃ after, later.history = start.history ++ .handed (start.chunkOf frame) :: after := by
  have handed : ∀ copies, 1 ≤ copies → ∃ after,
      (start.hand (start.chunkOf frame) copies).history =
        start.history ++ .handed (start.chunkOf frame) :: after := by
    intro copies positive
    obtain ⟨more, rfl⟩ : ∃ more, copies = more + 1 := ⟨copies - 1, by omega⟩
    exact ⟨List.replicate more (.handed (start.chunkOf frame)), rfl⟩
  cases sends with
  | handing copies bound =>
      cases copies with
      | zero => exact .inl (by rw [CallerView.hand_zero])
      | succ copies => exact .inr (handed _ (by omega))
  | confirmed copies positive bound =>
      rcases handed copies positive with ⟨after, same⟩
      refine .inr ⟨after ++ [.confirmed start.txSequence], ?_⟩
      change _ ++ [Action.confirmed start.txSequence] = _
      rw [same, List.append_assoc]
      rfl
  | received copies positive bound reply =>
      rcases handed copies positive with ⟨after, same⟩
      refine .inr ⟨after ++ [.confirmed start.txSequence, .received reply], ?_⟩
      change _ ++ [Action.confirmed start.txSequence] ++ [Action.received reply] = _
      rw [same, List.append_assoc, List.append_assoc]
      rfl

/-- The invariant of a conversation: it is tracked as long as its requests were
sent when nothing waited for an acknowledgement. -/
def TrackedIfSettled (view : CallerView) : Prop := SettledRequests view.history → Tracked view

theorem TrackedIfSettled.record {view : CallerView} (tracked : TrackedIfSettled view)
    {action : Action} (notHanded : ∀ chunk, action ≠ .handed chunk)
    (notConfirmed : ∀ sequence, action ≠ .confirmed sequence) :
    TrackedIfSettled (view.record action) := by
  intro settled
  exact (tracked (settled.earlier (List.prefix_append _ _))).record notHanded notConfirmed

theorem TrackedIfSettled.exchanging {Result : Type} {call : SessionCall primitives key Result}
    (tracked : TrackedIfSettled start) (exchanging : Exchanging call start later) :
    TrackedIfSettled later := by
  have requested : ∀ frame, TrackedIfSettled (start.request frame) := by
    intro frame settled
    have recorded : Tracked
        (start.record (.requested start.counter start.messageId frame)) :=
      tracked.record requested_ne_handed requested_ne_confirmed settled
    exact ⟨recorded.everyHanded, recorded.inRange, recorded.last⟩
  cases exchanging with
  | idle => exact tracked
  | unencoded isNonce encoded => exact requested _
  | @sending nonce frame later isNonce encoded sends =>
      intro settled
      have grows := sends.grows
      have before : SettledRequests (start.request (.ok frame)).history := by
        apply settled.earlier
        rcases grows with same | ⟨after, same⟩
        · exact same ▸ List.prefix_refl _
        · exact same ▸ List.prefix_append _ _
      refine (requested _ before).sending ?_ sends
      intro changed chunk last
      rcases grows with same | ⟨after, same⟩
      · exact absurd same.symm changed
      · have ready := settled start.history start.counter start.messageId (.ok frame) _ after
          (same.trans (List.append_assoc _ _ _))
        apply ready chunk
        rwa [← lastHanded_append (.requested start.counter start.messageId (.ok frame))
          requested_ne_handed requested_ne_confirmed]

theorem TrackedIfSettled.calling {Result : Type} {call : SessionCall primitives key Result}
    (tracked : TrackedIfSettled start) (calling : Calling network call start later) :
    TrackedIfSettled later := by
  rcases calling with exchanging | ⟨outcome, response, exchanged, ended, _, rfl⟩
  · exact tracked.exchanging exchanging
  · have isOutcome := call.isCallOutcome outcome
    refine (tracked.exchanging ended.exchanging).record ?_ ?_
    · rintro chunk isHanded
      rw [isHanded] at isOutcome
      cases isOutcome
    · rintro sequence isConfirmed
      rw [isConfirmed] at isOutcome
      cases isOutcome

/-- In every run of a conversation whose requests are sent only when the last
chunk has been acknowledged, a repeated sequence number is a retransmission. -/
theorem conversation_followsLast (primitives : CryptoPrimitives) (key : PairingKey)
    (requests : List SessionRequest) (events : List SessionEvent)
    (task : Task World Operation Operation.Reply PythonException Unit)
    (reached : eventLoop.run
      (eventLoop.settle (TiltBleSession.conversation primitives key requests) World.started)
      events = some task)
    (settled : SettledRequests task.state.callerView.history) :
    EveryHanded FollowsLast task.state.callerView.history := by
  have keeps : Keeps .arbitrary (TiltBleSession.conversation primitives key requests)
      TrackedIfSettled World.started.callerView := by
    have tracked : Tracked World.started.callerView := ⟨everyHanded_nil, by decide, nofun⟩
    have fresh : Settled World.started.callerView.history := nofun
    refine Keeps.bind ((TiltBleSession.authenticate_behaves _).mono
      (fun _ authenticating _ => tracked.authenticating fresh authenticating)
      fun _ _ ended _ => tracked.authenticating fresh ended.authenticating) fun _ later holds => ?_
    exact TiltBleSession.performAll_keeps TrackedIfSettled.calling requests holds
  exact ((Behaves.reached keeps reached).1 settled).everyHanded

/-- A status read that is acknowledged but not answered, and then another one. -/
theorem conversation_followsLast_unanswered : ∃ events task,
    eventLoop.run (eventLoop.settle (TiltBleSession.conversation .constant .zero
        [.readStatus, .readStatus]) World.started) events = some task ∧
      lastHanded task.state.callerView.history =
        some ([0, 69, 0, 2, 2, 16, 243, 158], false) ∧
      EveryHanded FollowsLast task.state.callerView.history := by
  have observed : (observe (TiltBleSession.conversation .constant .zero
      [.readStatus, .readStatus]) World.started (answerHandshake .constant .zero zeroNonce ++
        acknowledgeChunk 4 ++ [.resume .timedOut])).map (fun seen =>
        (lastHanded seen.1, decide (SettledRequests seen.1))) =
      some (some ([0, 69, 0, 2, 2, 16, 243, 158], false), true) := by
    decide +kernel
  rcases Option.map_eq_some_iff.mp observed with ⟨⟨history, outcome⟩, seen, same⟩
  rcases observe_eq_some seen with ⟨task, reached, rfl, _⟩
  simp only [Prod.mk.injEq, decide_eq_true_eq] at same
  exact ⟨_, task, reached, same.1, conversation_followsLast .constant .zero _ _ task reached same.2⟩

/-- The acknowledgement of a SET_POSITION chunk is lost, and the next request
takes its sequence number. -/
theorem conversation_repeats_sequence : ∃ events task before after,
    eventLoop.run (eventLoop.settle (TiltBleSession.conversation .constant .zero
        [.setPosition (.int 50), .readStatus]) World.started) events = some task ∧
      task.state.callerView.history = before ++ .handed [0, 68, 0, 2, 2, 16, 243, 158] :: after ∧
      lastHanded before = some ([0, 68, 0, 1, 1, 19, 244, 1, 100, 197, 190], false) ∧
      ¬Follows [0, 68, 0, 1, 1, 19, 244, 1, 100, 197, 190] [0, 68, 0, 2, 2, 16, 243, 158] := by
  have observed : (observe (TiltBleSession.conversation .constant .zero
      [.setPosition (.int 50), .readStatus]) World.started
      (answerHandshake .constant .zero zeroNonce ++ [.resume .completed, .resume .timedOut])).map
        (fun seen => (seen.1.getLast?, lastHanded seen.1.dropLast)) =
      some (some (.handed [0, 68, 0, 2, 2, 16, 243, 158]),
        some ([0, 68, 0, 1, 1, 19, 244, 1, 100, 197, 190], false)) := by
    decide +kernel
  rcases Option.map_eq_some_iff.mp observed with ⟨⟨history, outcome⟩, seen, same⟩
  rcases observe_eq_some seen with ⟨task, reached, rfl, _⟩
  simp only [Prod.mk.injEq] at same
  have split := List.dropLast_append_getLast? _ same.1
  refine ⟨_, task, _, [], reached, split.symm, same.2, ?_⟩
  unfold Follows
  decide

end Tracking

end SmartblindsBle
