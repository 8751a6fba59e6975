import SmartblindsBle.Tilt.Transcript
import SmartblindsBle.Tilt.ClientBehaviour

/-! # The traffic of a call

However often anything is lost, a call opens at most two sessions, and each of them
makes at most three requests under the ids 1, 2, 3. The counters of the client
therefore never come near their wrap.
-/

namespace SmartblindsBle

open Foundation

namespace Action

def isCall : Action → Bool
  | .called _ => true
  | _ => false

def isSessionCreated : Action → Bool
  | .sessionCreated => true
  | _ => false

def isHanded : Action → Bool
  | .handed _ => true
  | _ => false

def requestIds? : Action → Option (Int × Int)
  | .requested counter messageId _ => some (counter, messageId)
  | _ => none

end Action

/-- An action that begins nothing and takes no ids. -/
def Action.isPlain (action : Action) : Bool :=
  !action.isCall && !action.isSessionCreated && action.requestIds?.isNone

/-- The counters and message ids that were taken. -/
def requestIds (actions : List Action) : List (Int × Int) := actions.filterMap Action.requestIds?

theorem requestIds_append (before after : List Action) :
    requestIds (before ++ after) = requestIds before ++ requestIds after :=
  List.filterMap_append

theorem requestIds_plain {actions : List Action}
    (plain : ∀ action ∈ actions, action.isPlain = true) : requestIds actions = [] := by
  apply List.filterMap_eq_nil_iff.mpr
  intro action member
  have isPlain := plain action member
  rw [Action.isPlain, Bool.and_eq_true] at isPlain
  exact Option.isNone_iff_eq_none.mp isPlain.2

def firstIds (count : Nat) : List (Int × Int) :=
  (List.range count).map fun index => ((index : Int) + 1, (index : Int) + 1)

theorem firstIds_succ (count : Nat) :
    firstIds (count + 1) = firstIds count ++ [((count : Int) + 1, (count : Int) + 1)] := by
  simp [firstIds, List.range_succ]

/-- What a session of a call has done: it has taken the first ids, and written some chunks. -/
structure SessionTraffic (count writes : Nat) (actions : List Action) : Prop where
  inside : ∀ action ∈ actions, action.isCall = false ∧ action.isSessionCreated = false
  ids : requestIds actions = firstIds count
  written : actions.countP Action.isHanded ≤ writes

theorem SessionTraffic.nil : SessionTraffic 0 0 [] :=
  ⟨nofun, rfl, Nat.le_refl 0⟩

theorem SessionTraffic.append {count more writes extra : Nat} {actions entries : List Action}
    (traffic : SessionTraffic count writes actions)
    (inside : ∀ action ∈ entries, action.isCall = false ∧ action.isSessionCreated = false)
    (ids : firstIds count ++ requestIds entries = firstIds more)
    (written : entries.countP Action.isHanded ≤ extra) :
    SessionTraffic more (writes + extra) (actions ++ entries) := by
  constructor
  · intro action member
    rcases List.mem_append.mp member with earlier | later
    · exact traffic.inside action earlier
    · exact inside action later
  · rw [requestIds_append, traffic.ids, ids]
  · rw [List.countP_append]
    exact Nat.add_le_add traffic.written written

/-- A session that was created after `begun`, and its next ids. -/
structure InSession (begun : List Action) (count writes : Nat) (view : CallerView) : Prop where
  history : ∃ actions, view.history = begun ++ .sessionCreated :: actions ∧
    SessionTraffic count writes actions
  counter : view.counter = (count : Int) + 1
  messageId : view.messageId = (count : Int) + 1

namespace InSession

variable {network : Network} {primitives : CryptoPrimitives} {key : PairingKey}
variable {begun : List Action} {count writes : Nat} {start later : CallerView}

theorem newSession (view : CallerView) : InSession view.history 0 0 view.newSession where
  history := ⟨[], rfl, .nil⟩
  counter := rfl
  messageId := rfl

theorem plain (inSession : InSession begun count writes start) {entries : List Action}
    {extra : Nat} (grown : later.history = start.history ++ entries)
    (counter : later.counter = start.counter) (messageId : later.messageId = start.messageId)
    (isPlain : ∀ action ∈ entries, action.isPlain = true)
    (written : entries.countP Action.isHanded ≤ extra) :
    InSession begun count (writes + extra) later := by
  rcases inSession.history with ⟨actions, same, traffic⟩
  constructor
  · refine ⟨actions ++ entries, ?_, traffic.append ?_ ?_ written⟩
    · rw [grown, same, List.append_assoc, List.cons_append]
    · intro action member
      have inside := isPlain action member
      simp only [Action.isPlain, Bool.and_eq_true, Bool.not_eq_true'] at inside
      exact inside.1
    · rw [requestIds_plain isPlain, List.append_nil]
  · exact counter.trans inSession.counter
  · exact messageId.trans inSession.messageId

theorem record (inSession : InSession begun count writes start) {action : Action}
    (isPlain : action.isPlain = true) (notHanded : action.isHanded = false) :
    InSession begun count writes (start.record action) := by
  have grown : (start.record action).history = start.history ++ [action] := rfl
  change InSession begun count (writes + 0) (start.record action)
  apply inSession.plain grown rfl rfl
  · intro other member
    rw [List.mem_singleton.mp member]
    exact isPlain
  · rw [List.countP_singleton, notHanded]
    exact Nat.le_refl 0

theorem confirm (inSession : InSession begun count writes start) :
    InSession begun count writes start.confirm := by
  have recorded : InSession begun count writes (start.record (.confirmed start.txSequence)) :=
    inSession.record rfl rfl
  exact ⟨recorded.history, recorded.counter, recorded.messageId⟩

theorem hand (inSession : InSession begun count writes start) {chunk : Bytes}
    {copies attempts : Nat} (bound : copies ≤ attempts) :
    InSession begun count (writes + attempts) (start.hand chunk copies) := by
  have grown : (start.hand chunk copies).history =
    start.history ++ List.replicate copies (.handed chunk) := rfl
  apply inSession.plain grown rfl rfl
  · intro action member
    rw [List.eq_of_mem_replicate member]
    rfl
  · rw [List.countP_replicate]
    exact bound

theorem sending {frame : Bytes} {attempts : Nat} (inSession : InSession begun count writes start)
    (sends : Sending frame attempts start later) :
    InSession begun count (writes + attempts) later := by
  cases sends with
  | handing copies bound => exact inSession.hand bound
  | confirmed copies positive bound => exact (inSession.hand bound).confirm
  | received copies positive bound reply => exact (inSession.hand bound).confirm.record rfl rfl

theorem authenticating (inSession : InSession begun count writes start)
    (authenticating : Authenticating network primitives key start later) :
    ∃ extra ≤ 6, InSession begun count (writes + extra) later := by
  cases authenticating with
  | versions sends => exact ⟨2, by omega, inSession.sending sends⟩
  | selection versions sends =>
      have first := inSession.sending versions.sending
      exact ⟨4, by omega, first.sending sends⟩
  | nonce versions selection sends =>
      have first := inSession.sending versions.sending
      have second := first.sending selection.sending
      exact ⟨6, by omega, second.sending sends⟩
  | verified versions selection proof =>
      have first := inSession.sending versions.sending
      have second := first.sending selection.sending
      have third := second.sending proof.sending
      exact ⟨6, by omega, third.history, third.counter, third.messageId⟩

theorem request (inSession : InSession begun count writes start) (few : count < 14)
    (encoded : Raises Bytes) : InSession begun (count + 1) writes (start.request encoded) := by
  have ids : start.counter = (count : Int) + 1 ∧ start.messageId = (count : Int) + 1 :=
    ⟨inSession.counter, inSession.messageId⟩
  rcases inSession.history with ⟨actions, same, traffic⟩
  constructor
  · refine ⟨actions ++ [.requested start.counter start.messageId encoded], ?_, ?_⟩
    · change start.history ++ [_] = _
      rw [same, List.append_assoc, List.cons_append]
    · change SessionTraffic (count + 1) (writes + 0) _
      apply traffic.append
      · intro action member
        rw [List.mem_singleton.mp member]
        exact ⟨rfl, rfl⟩
      · rw [firstIds_succ, ids.1, ids.2]
        rfl
      · exact Nat.le_refl 0
  · change TiltBleSession.counterAfter start.counter = _
    rw [ids.1, TiltBleSession.counterAfter, if_neg (by omega)]
    rfl
  · change TiltBleSession.messageIdAfter start.messageId = _
    rw [ids.2, TiltBleSession.messageIdAfter, if_neg (by omega)]
    rfl

theorem mono (inSession : InSession begun count writes start) {more : Nat} (fits : writes ≤ more) :
    InSession begun count more start := by
  rcases inSession.history with ⟨actions, same, traffic⟩
  exact ⟨⟨actions, same, traffic.inside, traffic.ids, Nat.le_trans traffic.written fits⟩,
    inSession.counter, inSession.messageId⟩

end InSession

/-- A session with at most so many requests and writes. -/
def SessionWithin (begun : List Action) (requests writes : Nat) (view : CallerView) : Prop :=
  ∃ count ≤ requests, InSession begun count writes view

namespace SessionWithin

variable {network : Network} {primitives : CryptoPrimitives} {key : PairingKey}
variable {begun : List Action} {requests writes : Nat} {start later : CallerView}

theorem mono (within : SessionWithin begun requests writes start) {more extra : Nat}
    (requestsFit : requests ≤ more) (writesFit : writes ≤ extra) :
    SessionWithin begun more extra start := by
  rcases within with ⟨count, bound, inSession⟩
  exact ⟨count, Nat.le_trans bound requestsFit, inSession.mono writesFit⟩

theorem exchanging {Result : Type} {call : SessionCall primitives key Result}
    (within : SessionWithin begun requests writes start) (few : requests < 14)
    (exchanging : Exchanging call start later) :
    SessionWithin begun (requests + 1) (writes + attempts call.retryChunks) later := by
  rcases within with ⟨count, bound, inSession⟩
  have fewer : count < 14 := Nat.lt_of_le_of_lt bound few
  cases exchanging with
  | idle =>
      exact ⟨count, Nat.le_succ_of_le bound, inSession.mono (Nat.le_add_right ..)⟩
  | unencoded isNonce encoded =>
      exact ⟨count + 1, Nat.succ_le_succ bound,
        (inSession.request fewer _).mono (Nat.le_add_right ..)⟩
  | sending isNonce encoded sends =>
      exact ⟨count + 1, Nat.succ_le_succ bound, (inSession.request fewer _).sending sends⟩

theorem calling {Result : Type} {call : SessionCall primitives key Result}
    (within : SessionWithin begun requests writes start) (few : requests < 14)
    (calling : Calling network call start later) :
    SessionWithin begun (requests + 1) (writes + attempts call.retryChunks) later := by
  rcases calling with exchanging | ⟨outcome, response, last, exchanged, _, rfl⟩
  · exact within.exchanging few exchanging
  · rcases within.exchanging few exchanged.exchanging with ⟨count, bound, inSession⟩
    have isOutcome := call.isCallOutcome outcome
    refine ⟨count, bound, inSession.record ?_ ?_⟩
    · cases noted : call.note outcome with
      | statusRead _ => rfl
      | positionSet _ => rfl
      | _ =>
          rw [noted] at isOutcome
          cases isOutcome
    · cases noted : call.note outcome with
      | statusRead _ => rfl
      | positionSet _ => rfl
      | _ =>
          rw [noted] at isOutcome
          cases isOutcome

theorem positionOperating {percent : Int} (within : SessionWithin begun requests writes start)
    (few : requests < 12)
    (operating : PositionOperating network primitives key percent start later) :
    SessionWithin begun (requests + 3) (writes + 5) later := by
  have readAttempts : attempts (statusCall primitives key).retryChunks = 2 := rfl
  have writeAttempts :
      attempts (positionCall primitives key (.int percent)).retryChunks = 1 := rfl
  cases operating with
  | reading calling =>
      have first := within.calling (by omega) calling
      rw [readAttempts] at first
      exact first.mono (by omega) (by omega)
  | setting read differs calling =>
      have first := within.calling (by omega) read.calling
      have second := first.calling (by omega) calling
      rw [readAttempts, writeAttempts] at second
      exact second.mono (by omega) (by omega)
  | readingBack read differs set calling =>
      have first := within.calling (by omega) read.calling
      have second := first.calling (by omega) set.calling
      have third := second.calling (by omega) calling
      rw [readAttempts, writeAttempts] at third
      exact third

theorem authenticating (authenticating : Authenticating network primitives key start later)
    (within : SessionWithin begun requests writes start) :
    SessionWithin begun requests (writes + 6) later := by
  rcases within with ⟨count, bound, inSession⟩
  rcases inSession.authenticating authenticating with ⟨extra, fits, authenticated⟩
  exact ⟨count, bound, authenticated.mono (Nat.add_le_add_left fits writes)⟩

theorem session {Result : Type} {operation : Async Result} {view : CallerView}
    (fits : 6 ≤ writes)
    (operates : ∀ later, SessionWithin view.history 0 6 later →
      Keeps network operation (SessionWithin view.history requests writes) later) :
    Keeps network (TiltBleSession.authenticate primitives key >>= fun _ => operation)
      (SessionWithin view.history requests writes) view.newSession := by
  have during : ∀ later, Authenticating network primitives key view.newSession later →
      SessionWithin view.history 0 6 later := by
    intro later handshake
    have created : SessionWithin view.history 0 0 view.newSession :=
      ⟨0, Nat.le_refl 0, .newSession view⟩
    exact (created.authenticating handshake).mono (Nat.le_refl 0) (Nat.le_refl 6)
  apply Behaves.bind
  apply (TiltBleSession.authenticate_behaves view.newSession).mono
  · intro later handshake
    exact (during later handshake).mono (Nat.zero_le requests) fits
  · intro outcome later ended
    have authenticated := during later ended.authenticating
    cases outcome with
    | ok _ => exact operates later authenticated
    | error error => exact authenticated.mono (Nat.zero_le requests) fits

end SessionWithin

/-! ## Calls -/

/-- Every session in these actions takes at most so many ids, the first ones. -/
def TakesFirstIds (requests : Nat) (actions : List Action) : Prop :=
  EveryStretch Action.isSessionCreated
    (fun _ inside => ∃ count ≤ requests, requestIds inside = firstIds count) actions

/-- What a call has done since `begun`. -/
structure CallTraffic (requests sessions writes : Nat) (actions : List Action) : Prop where
  inside : ∀ action ∈ actions, action.isCall = false
  sessions : actions.countP Action.isSessionCreated ≤ sessions
  written : actions.countP Action.isHanded ≤ writes
  ids : TakesFirstIds requests actions

theorem CallTraffic.nil (requests : Nat) : CallTraffic requests 0 0 [] :=
  ⟨nofun, Nat.le_refl 0, Nat.le_refl 0, trivial⟩

theorem CallTraffic.mono {requests sessions writes moreSessions moreWrites : Nat}
    {actions : List Action} (traffic : CallTraffic requests sessions writes actions)
    (sessionsFit : sessions ≤ moreSessions) (writesFit : writes ≤ moreWrites) :
    CallTraffic requests moreSessions moreWrites actions :=
  ⟨traffic.inside, Nat.le_trans traffic.sessions sessionsFit,
    Nat.le_trans traffic.written writesFit, traffic.ids⟩

theorem CallTraffic.session {requests sessions writes count extra : Nat}
    {actions entries : List Action} (traffic : CallTraffic requests sessions writes actions)
    (fits : count ≤ requests) (session : SessionTraffic count extra entries) :
    CallTraffic requests (sessions + 1) (writes + extra)
      (actions ++ .sessionCreated :: entries) := by
  constructor
  · intro action member
    rcases List.mem_append.mp member with earlier | later
    · exact traffic.inside action earlier
    · rcases List.mem_cons.mp later with created | inside
      · rw [created]
        rfl
      · exact (session.inside action inside).1
  · have others : entries.countP Action.isSessionCreated = 0 := by
      apply List.countP_eq_zero.mpr
      intro action member isCreated
      cases (session.inside action member).2.symm.trans isCreated
    rw [List.countP_append, List.countP_cons, others]
    exact Nat.add_le_add_right traffic.sessions 1
  · rw [List.countP_append, List.countP_cons]
    exact Nat.add_le_add traffic.written session.written
  · apply EveryStretch.stretch traffic.ids rfl
    · exact fun action member => (session.inside action member).2
    · exact ⟨count, fits, session.ids⟩

/-- A call that began after `begun`. -/
def InCall (begun : List Action) (requests sessions writes : Nat) (view : CallerView) : Prop :=
  ∃ actions, view.history = begun ++ actions ∧ CallTraffic requests sessions writes actions

namespace InCall

variable {network : Network} {primitives : CryptoPrimitives} {client : TiltShadeClient}
variable {begun : List Action} {requests sessions writes : Nat} {start later : CallerView}

theorem mono (inCall : InCall begun requests sessions writes start) {moreSessions moreWrites : Nat}
    (sessionsFit : sessions ≤ moreSessions) (writesFit : writes ≤ moreWrites) :
    InCall begun requests moreSessions moreWrites start := by
  rcases inCall with ⟨actions, same, traffic⟩
  exact ⟨actions, same, traffic.mono sessionsFit writesFit⟩

theorem session (inCall : InCall begun requests sessions writes start) {extra : Nat}
    (within : SessionWithin start.history requests extra later) :
    InCall begun requests (sessions + 1) (writes + extra) later := by
  rcases inCall with ⟨actions, same, traffic⟩
  rcases within with ⟨count, fits, inSession⟩
  rcases inSession.history with ⟨entries, grown, session⟩
  refine ⟨actions ++ .sessionCreated :: entries, ?_, traffic.session fits session⟩
  rw [grown, same, List.append_assoc]

theorem runSession {Result : Type} {operation : Async Result}
    (inCall : InCall begun requests sessions writes start) {extra : Nat} (fits : 6 ≤ extra)
    (operates : ∀ later, SessionWithin start.history 0 6 later →
      Keeps network operation (SessionWithin start.history requests extra) later) :
    Keeps network (client.runSession primitives operation)
      (InCall begun requests (sessions + 1) (writes + extra)) start := by
  have unchanged : InCall begun requests (sessions + 1) (writes + extra) start :=
    inCall.mono (Nat.le_succ sessions) (Nat.le_add_right writes extra)
  have created : SessionWithin start.history requests extra start.noSession.newSession :=
    SessionWithin.mono ⟨0, Nat.le_refl 0, .newSession start.noSession⟩ (Nat.zero_le requests)
      (Nat.zero_le extra)
  have body : Keeps network
      (TiltBleSession.authenticate primitives client.pairingKey >>= fun _ => operation)
      (SessionWithin start.history requests extra) start.noSession.newSession :=
    SessionWithin.session fits operates
  apply runSession_keeps unchanged unchanged
  · exact inCall.session created
  · apply body.mono
    · exact fun later => inCall.session
    · exact fun outcome later => inCall.session

theorem readStatus (inCall : InCall begun 1 0 0 start) :
    Keeps network (client.readStatus primitives) (InCall begun 1 2 16) start := by
  have once : ∀ view sessions writes, InCall begun 1 sessions writes view →
      Keeps network
        (client.runSession primitives (TiltBleSession.readStatus primitives client.pairingKey))
        (InCall begun 1 (sessions + 1) (writes + 8)) view := by
    intro view sessions writes inCall
    apply inCall.runSession (by decide)
    intro later within
    apply (TiltBleSession.readStatus_behaves later).mono
    · exact fun last => within.calling (by decide)
    · exact fun outcome last ended => within.calling (by decide) ended.calling
  have first := once start 0 0 inCall
  apply Behaves.tryCatch
  apply first.mono
  · exact fun later holds => holds.mono (by decide) (by decide)
  · intro outcome later holds
    have between : InCall begun 1 2 16 later := holds.mono (by decide) (by decide)
    cases outcome with
    | ok status => exact between
    | error error =>
        apply Behaves.ite
        · intro _
          exact Behaves.bind (TiltBleSession.sleep_behaves between (once later 1 8 holds))
        · intro _
          exact Keeps.done between

theorem setPositionAndReadStatus (inCall : InCall begun 3 0 0 start)
    (positionPercent : PythonValue) (settleSeconds : Rat) :
    Keeps network (client.setPositionAndReadStatus primitives positionPercent settleSeconds)
      (InCall begun 3 1 11) start := by
  have unchanged : InCall begun 3 1 11 start := inCall.mono (by decide) (by decide)
  unfold TiltShadeClient.setPositionAndReadStatus
  cases client.requestedPosition positionPercent with
  | error error => exact Keeps.done unchanged
  | ok percent =>
      change Keeps network (client.runSession primitives
        (TiltShadeClient.positionOperation primitives client.pairingKey percent settleSeconds))
        (InCall begun 3 (0 + 1) (0 + 11)) start
      apply inCall.runSession (by decide)
      intro later within
      apply (positionOperation_behaves settleSeconds later).mono
      · exact fun last => within.positionOperating (by decide)
      · exact fun outcome last ended => within.positionOperating (by decide) ended.operating

end InCall

/-! ## Histories of calls -/

namespace ClientCall

/-- The requests of a session, the sessions and the chunks of a call: two
sessions of 3 handshake requests and a read, written twice each, or one session of 3
handshake requests and two reads, written twice each, and a position. -/
def requests : ClientCall → Nat
  | .readStatus => 1
  | .setPositionAndReadStatus _ _ => 3

def sessions : ClientCall → Nat
  | .readStatus => 2
  | .setPositionAndReadStatus _ _ => 1

def writes : ClientCall → Nat
  | .readStatus => 16
  | .setPositionAndReadStatus _ _ => 11

end ClientCall

/-- Every call so far kept to its bounds. -/
def EveryCall (history : List Action) : Prop :=
  EveryStretch Action.isCall
    (fun action entries => ∀ call, action = .called call →
      CallTraffic call.requests call.sessions call.writes entries) history

theorem EveryCall.inCall {history : List Action} {call : ClientCall} {view : CallerView}
    (every : EveryCall history)
    (inCall : InCall (history ++ [.called call]) call.requests call.sessions call.writes view) :
    EveryCall view.history := by
  rcases inCall with ⟨actions, same, traffic⟩
  rw [same, List.append_assoc, List.singleton_append]
  apply EveryStretch.stretch every rfl traffic.inside
  intro other isCall
  cases isCall
  exact traffic

theorem perform_everyCall {network : Network} {primitives : CryptoPrimitives}
    {client : TiltShadeClient} {view : CallerView} (call : ClientCall)
    (every : EveryCall view.history) :
    Keeps network (client.perform primitives call) (fun later => EveryCall later.history)
      (view.record (.called call)) := by
  cases call with
  | readStatus =>
      have started : InCall (view.history ++ [.called .readStatus]) 1 0 0
          (view.record (.called .readStatus)) := ⟨[], (List.append_nil _).symm, .nil 1⟩
      apply Keeps.bind
      · apply started.readStatus.mono
        · exact fun later => every.inCall
        · exact fun outcome later => every.inCall
      · exact fun _ later holds => Behaves.done holds holds
  | setPositionAndReadStatus positionPercent settleSeconds =>
      have started :
          InCall
            (view.history ++ [.called (.setPositionAndReadStatus positionPercent settleSeconds)])
            3 0 0
            (view.record (.called (.setPositionAndReadStatus positionPercent settleSeconds))) :=
        ⟨[], (List.append_nil _).symm, .nil 3⟩
      apply Keeps.bind
      · apply (started.setPositionAndReadStatus positionPercent settleSeconds).mono
        · exact fun later => every.inCall
        · exact fun outcome later => every.inCall
      · exact fun _ later holds => Behaves.done holds holds

/-- The traffic of a call. In every run of a client's calls, whatever the shade sends
and whatever fails, a status read creates at most two sessions and writes at most 16
chunks, a position call one session and 11 chunks; and each session takes its request
ids in order from (1, 1), at most one of them in a status read, at most three in a
position call. The worker's acknowledgements are left out of the history. -/
theorem performAll_call_traffic (primitives : CryptoPrimitives) (client : TiltShadeClient)
    (calls : List ClientCall) (events : List (Event Background Choice))
    (task : Task World Operation Operation.Reply PythonException Unit)
    (reached : eventLoop.run (eventLoop.settle (client.performAll primitives calls) .initial)
      events = some task) (before after : List Action) (call : ClientCall)
    (isCall : task.state.callerView.history = before ++ .called call :: after) :
    CallTraffic call.requests call.sessions call.writes
      (after.takeWhile fun action => !action.isCall) := by
  have keeps : Keeps .arbitrary (client.performAll primitives calls)
      (fun view => EveryCall view.history) World.initial.callerView := by
    apply performAll_keeps
    · exact fun view call => perform_everyCall call
    · exact EveryStretch.none nofun
  have every := (Behaves.reached keeps reached).1
  rw [isCall] at every
  exact EveryStretch.of_append before every rfl call rfl

/-- Neither copy of the first chunk is acknowledged, and the session ends. -/
def loseFirstSession : List SessionEvent :=
  openSession ++ [.resume .completed, .resume .completed, .resume .timedOut,
    .resume .completed, .resume .timedOut] ++ closeSession ++ [.resume (.connected false)]

/-- A status read whose first session was lost and whose second was opened. -/
theorem performAll_call_traffic_retried : ∃ events task,
    eventLoop.run (eventLoop.settle (sampleClient.performAll .constant [.readStatus]) .initial)
      events = some task ∧
    task.state.callerView.history = [.called .readStatus, .sessionCreated,
      .handed (dataChunk 1 true versionsRequest), .handed (dataChunk 1 true versionsRequest),
      .sessionCreated] ∧
    CallTraffic 1 2 16 [.sessionCreated, .handed (dataChunk 1 true versionsRequest),
      .handed (dataChunk 1 true versionsRequest), .sessionCreated] := by
  have observed : observe (sampleClient.performAll .constant [.readStatus]) .initial
      (loseFirstSession ++ [.resume .completed] ++ openSession) =
        some ([.called .readStatus, .sessionCreated,
          .handed (dataChunk 1 true versionsRequest),
          .handed (dataChunk 1 true versionsRequest), .sessionCreated], none) := by
    decide +kernel
  rcases observe_eq_some observed with ⟨task, reached, history, _⟩
  exact ⟨_, task, reached, history, performAll_call_traffic .constant sampleClient [.readStatus]
    _ task reached [] _ .readStatus history⟩

end SmartblindsBle
