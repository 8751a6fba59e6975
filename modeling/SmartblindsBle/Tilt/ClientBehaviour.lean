import SmartblindsBle.Tilt.History

/-! # What a call of the client does

Outside the session body, a call touches nothing but the flag that tells
whether a session exists. An invariant of the session body is therefore an
invariant of the call.
-/

namespace SmartblindsBle

open Foundation

namespace CallerView

/-- A new session object was created. -/
def newSession (view : CallerView) : CallerView where
  txSequence := 1
  counter := 1
  messageId := 1
  nonce := none
  hasSession := true
  history := view.history ++ [.sessionCreated]

/-- The local variable `session` is `None`. -/
def noSession (view : CallerView) : CallerView := { view with hasSession := false }

end CallerView

/-! ## Code that leaves the caller's view alone -/

def Quiet {Result : Type} (network : Network) (code : Async Result) : Prop :=
  ∀ view, Behaves network code view (· = view) (fun _ later => later = view)

namespace Quiet

variable {network : Network} {Result Value : Type}

theorem behaves {code : Async Result} (quiet : Quiet network code) {view : CallerView}
    {during : CallerView → Prop} {ends : Raises Result → CallerView → Prop}
    (holds : during view) (allowed : ∀ outcome, ends outcome view) :
    Behaves network code view during ends := by
  refine (quiet view).mono ?_ ?_
  · rintro later rfl
    exact holds
  · rintro outcome later rfl
    exact allowed outcome

theorem done (outcome : Raises Result) : Quiet network (.done outcome) :=
  fun _ => Behaves.done rfl rfl

theorem bind {first : Async Value} {rest : Value → Async Result}
    (firstQuiet : Quiet network first) (restQuiet : ∀ value, Quiet network (rest value)) :
    Quiet network (first >>= rest) := by
  intro view
  refine Behaves.bind (firstQuiet.behaves rfl ?_)
  rintro (error | value)
  · rfl
  · exact restQuiet value view

theorem tryCatch {body : Async Result} {handler : PythonException → Async Result}
    (bodyQuiet : Quiet network body) (handlerQuiet : ∀ error, Quiet network (handler error)) :
    Quiet network (tryCatch body handler) := by
  intro view
  refine Behaves.tryCatch (bodyQuiet.behaves rfl ?_)
  rintro (error | value)
  · exact handlerQuiet error view
  · rfl

theorem tryFinally {body : Async Result} {cleanup : Async Unit}
    (bodyQuiet : Quiet network body) (cleanupQuiet : Quiet network cleanup) :
    Quiet network (tryFinally body cleanup) := by
  intro view
  refine Behaves.tryFinally (bodyQuiet.behaves rfl ?_)
  intro outcome
  refine cleanupQuiet.behaves rfl ?_
  rintro (error | ⟨⟩) <;> rfl

theorem ite {condition : Prop} [Decidable condition] {first second : Async Result}
    (firstQuiet : Quiet network first) (secondQuiet : Quiet network second) :
    Quiet network (if condition then first else second) := by
  split
  · exact firstQuiet
  · exact secondQuiet

theorem await {operation : Operation} (enters : ∀ world, World.enter operation world = world)
    (notResponse : operation ≠ .getResponse) :
    Quiet network (TiltBleSession.await operation) :=
  fun _ => Behaves.await enters notResponse rfl fun _ _ => Behaves.done rfl rfl

end Quiet

/-! ## The frame of a call -/

section Calls

variable {network : Network} {primitives : CryptoPrimitives} {key : PairingKey}

theorem stop_quiet : Quiet network (callPrimitives primitives key).stop := by
  have stopNotify : Quiet network (tryCatch (callPrimitives primitives key).stopNotify
      fun error => if error.isOrdinary then pure () else throw error) :=
    Quiet.tryCatch (Quiet.await (fun _ => rfl) nofun)
      fun error => Quiet.ite (Quiet.done _) (Quiet.done _)
  refine Quiet.bind ?_ fun worker => Quiet.ite (Quiet.bind ?_ fun _ => stopNotify) stopNotify
  · intro view
    apply TiltBleSession.current_then_behaves
    intro world same
    exact Behaves.update view (fun _ same => same) (fun _ => List.Subset.refl _)
      (List.prefix_refl _) (Behaves.done rfl rfl)
  · exact Quiet.tryCatch (Quiet.await (fun _ => rfl) nofun)
      fun error => Quiet.ite (Quiet.done _) (Quiet.done _)

theorem start_quiet : Quiet network (callPrimitives primitives key).start := by
  refine Quiet.bind (Quiet.await (fun _ => rfl) nofun) fun _ view => ?_
  exact Behaves.update view (fun _ same => same) (fun _ => List.Subset.refl _)
    (List.prefix_refl _) (Behaves.done rfl rfl)

theorem closeBleClient_quiet (session : Bool) :
    Quiet network ((callPrimitives primitives key).closeBleClient session) := by
  have isConnected : Quiet network (callPrimitives primitives key).isConnected :=
    Quiet.await (fun _ => rfl) nofun
  refine Quiet.bind (Quiet.tryFinally (Quiet.ite stop_quiet (Quiet.done _)) ?_) fun _ => ?_
  · refine Quiet.tryCatch (Quiet.await (fun _ => rfl) nofun) fun error =>
      Quiet.ite (Quiet.bind isConnected fun connected => ?_) (Quiet.done _)
    exact Quiet.ite (Quiet.done _) (Quiet.done _)
  · exact Quiet.bind isConnected fun connected => Quiet.ite (Quiet.done _) (Quiet.done _)

variable {Result : Type} {during : CallerView → Prop} {ends : Raises Result → CallerView → Prop}

/-- Before the handshake nothing happens but the creation of the session. -/
theorem sessionBody_behaves {shadeId : String} {operation : Async Result} {view : CallerView}
    (holds : during view) (fails : ∀ error, ends (.error error) view)
    (session : Behaves network
      (TiltBleSession.authenticate primitives key >>= fun _ => operation) view.newSession during
      ends)
    (startHolds : during view.newSession)
    (startFails : ∀ error, ends (.error error) view.newSession) :
    Behaves network ((callPrimitives primitives key).sessionBody shadeId operation) view during
      ends := by
  have await : ∀ operation : Operation, (∀ world, World.enter operation world = world) →
      operation ≠ .getResponse → ∀ (view : CallerView) (rest : operation.Reply → Async Result),
      during view → (∀ error, ends (.error error) view) →
      (∀ value, Behaves network (rest value) view during ends) →
      Behaves network (TiltBleSession.await operation >>= rest) view during ends := by
    intro operation enters notResponse view rest holds fails behaves
    refine Behaves.bind ((Quiet.await enters notResponse).behaves holds ?_)
    rintro (error | value)
    · exact fails error
    · exact behaves value
  have connected : Behaves network
      (do
        let connected ← (callPrimitives primitives key).isConnected
        if connected = false then
          throw (.tiltBleError
            ("Unable to connect to configured shade " ++ shadeId ++ "."))
        (callPrimitives primitives key).createSession
        (callPrimitives primitives key).start
        (callPrimitives primitives key).authenticate
        operation) view during ends := by
    apply await .isConnected (fun _ => rfl) nofun view _ holds fails
    intro (connected : Bool)
    apply Behaves.ite (fun _ => Behaves.done holds (fails _))
    intro _
    refine Behaves.update { view with
        txSequence := 1
        counter := 1
        messageId := 1
        nonce := none
        hasSession := true } ?_ ?_ (List.prefix_refl _) (TiltBleSession.record_then_behaves rfl ?_)
    · rintro world rfl
      rfl
    · exact fun world => List.nil_subset _
    · refine Behaves.bind (start_quiet.behaves startHolds ?_)
      rintro (error | ⟨⟩)
      · exact startFails error
      · exact session
  apply await .isConnected (fun _ => rfl) nofun view _ holds fails
  intro (isConnected : Bool)
  refine Behaves.ite (fun _ => ?_) fun _ => connected
  exact await .connect (fun _ => rfl) nofun view _ holds fails fun _ => connected

end Calls

/-! ## The position operation -/

section Operation

variable (network : Network) (primitives : CryptoPrimitives) (key : PairingKey)
variable (percent : Int)

/-- The views while the operation runs: the first read, the write, the readback. -/
inductive PositionOperating (start : CallerView) : CallerView → Prop
  | reading {later : CallerView}
      (calling : Calling network (statusCall primitives key) start later) :
      PositionOperating start later
  | setting {before : ShadeStatus} {first later : CallerView}
      (read : CallEnds network (statusCall primitives key) start (.ok before) first)
      (differs : before.positionPercent ≠ percent)
      (calling : Calling network (positionCall primitives key (.int percent)) first later) :
      PositionOperating start later
  | readingBack {before : ShadeStatus} {outcome : Raises Unit} {first second later : CallerView}
      (read : CallEnds network (statusCall primitives key) start (.ok before) first)
      (differs : before.positionPercent ≠ percent)
      (set : CallEnds network (positionCall primitives key (.int percent)) first outcome second)
      (calling : Calling network (statusCall primitives key) second later) :
      PositionOperating start later

/-- How the operation ends. -/
inductive PositionOperated (start : CallerView) :
    Raises (ShadeStatus × Bool) → CallerView → Prop
  | unread {error : PythonException} {later : CallerView}
      (read : CallEnds network (statusCall primitives key) start (.error error) later) :
      PositionOperated start (.error error) later
  | unchanged {before : ShadeStatus} {later : CallerView}
      (read : CallEnds network (statusCall primitives key) start (.ok before) later)
      (same : before.positionPercent = percent) :
      PositionOperated start (.ok (before, false)) later
  | unset {before : ShadeStatus} {error : PythonException} {first later : CallerView}
      (read : CallEnds network (statusCall primitives key) start (.ok before) first)
      (differs : before.positionPercent ≠ percent)
      (set : CallEnds network (positionCall primitives key (.int percent)) first (.error error)
        later)
      (notTimeout : error.isTiltBleTimeout = false) :
      PositionOperated start (.error error) later
  | unreadAfterTimeout {before : ShadeStatus} {error readError : PythonException}
      {first second later : CallerView}
      (read : CallEnds network (statusCall primitives key) start (.ok before) first)
      (differs : before.positionPercent ≠ percent)
      (set : CallEnds network (positionCall primitives key (.int percent)) first (.error error)
        second)
      (timeout : error.isTiltBleTimeout = true)
      (readback : CallEnds network (statusCall primitives key) second (.error readError) later)
      (message : String) :
      PositionOperated start (.error (.ambiguousPositionWrite message)) later
  | unreadAfterWrite {before : ShadeStatus} {readError : PythonException}
      {first second later : CallerView}
      (read : CallEnds network (statusCall primitives key) start (.ok before) first)
      (differs : before.positionPercent ≠ percent)
      (set : CallEnds network (positionCall primitives key (.int percent)) first (.ok ()) second)
      (readback : CallEnds network (statusCall primitives key) second (.error readError) later) :
      PositionOperated start (.error readError) later
  | readBack {before after : ShadeStatus} {outcome : Raises Unit}
      {first second later : CallerView} {verdict : Raises (ShadeStatus × Bool)}
      (read : CallEnds network (statusCall primitives key) start (.ok before) first)
      (differs : before.positionPercent ≠ percent)
      (set : CallEnds network (positionCall primitives key (.int percent)) first outcome second)
      (continues : ∀ error, outcome = .error error → error.isTiltBleTimeout = true)
      (readback : CallEnds network (statusCall primitives key) second (.ok after) later)
      (isVerdict : verdict = .ok (after, true) ∨
        ∃ message, verdict = .error (.positionVerificationPending message after))
      (judged : verdict = .ok (after, true) ↔
        after.positionPercent = percent ∨ movedToward before after percent = true) :
      PositionOperated start verdict later

variable {network primitives key percent}

theorem PositionOperated.operating {percent : Int} {start later : CallerView}
    {outcome : Raises (ShadeStatus × Bool)}
    (ended : PositionOperated network primitives key percent start outcome later) :
    PositionOperating network primitives key percent start later := by
  cases ended with
  | unread read => exact .reading read.calling
  | unchanged read same => exact .reading read.calling
  | unset read differs set notTimeout => exact .setting read differs set.calling
  | unreadAfterTimeout read differs set timeout readback message =>
      exact .readingBack read differs set readback.calling
  | unreadAfterWrite read differs set readback =>
      exact .readingBack read differs set readback.calling
  | readBack read differs set continues readback isVerdict judged =>
      exact .readingBack read differs set readback.calling

theorem verdict_behaves {before after : ShadeStatus} {message : String} {view : CallerView}
    {during : CallerView → Prop} {ends : Raises (ShadeStatus × Bool) → CallerView → Prop}
    (holds : during view)
    (allowed : ∀ verdict : Raises (ShadeStatus × Bool), (verdict = .ok (after, true) ∨
      ∃ message, verdict = .error (.positionVerificationPending message after)) →
      (verdict = .ok (after, true) ↔
        after.positionPercent = percent ∨ movedToward before after percent = true) →
      ends verdict view) :
    Behaves network
      (if after.positionPercent = percent then pure (after, true)
      else if movedToward before after percent = false then
        throw (.positionVerificationPending message after)
      else pure (after, true) : Async (ShadeStatus × Bool)) view during ends := by
  refine Behaves.ite (fun arrived => Behaves.done holds (allowed _ (.inl rfl) ?_)) fun away =>
    Behaves.ite (fun stuck => Behaves.done holds (allowed _ (.inr ⟨message, rfl⟩) ?_))
      fun moved => Behaves.done holds (allowed _ (.inl rfl) ?_)
  · exact iff_of_true rfl (.inl arrived)
  · exact iff_of_false nofun (by simp [away, stuck])
  · exact iff_of_true rfl (.inr (by simpa using moved))

theorem returned_isTiltBleTimeout (error : PythonException)
    (raised : (.ok () : Raises Unit) = .error error) : error.isTiltBleTimeout = true := by
  cases raised

theorem positionOperation_behaves (settleSeconds : Rat) (start : CallerView) :
    Behaves network (TiltShadeClient.positionOperation primitives key percent settleSeconds)
      start (PositionOperating network primitives key percent start)
      (PositionOperated network primitives key percent start) := by
  refine Behaves.bind ((TiltBleSession.readStatus_behaves start).mono
    (fun later calling => .reading calling) ?_)
  rintro (error | before) first read
  · exact .unread read
  refine Behaves.ite (fun same => Behaves.done (.reading read.calling) (.unchanged read same))
    fun differs => ?_
  refine Behaves.bind (Behaves.tryCatch (Behaves.bind
    ((TiltBleSession.setPosition_behaves (.int percent) first).mono
      (fun later calling => .setting read differs calling) ?_)))
  have settled : ∀ second, CallEnds network (positionCall primitives key (.int percent)) first
      (.ok ()) second → Behaves network
        (do
          let after ← TiltBleSession.readStatus primitives key
          if after.positionPercent = percent then pure (after, true)
          else if movedToward before after percent = false then
            throw (.positionVerificationPending
              ("Position write completed and the responding shade did not move " ++
                "toward the target.") after)
          else pure (after, true)) second
        (PositionOperating network primitives key percent start)
        (PositionOperated network primitives key percent start) := by
    intro second set
    refine Behaves.bind ((TiltBleSession.readStatus_behaves second).mono
      (fun later calling => .readingBack read differs set calling) ?_)
    rintro (readError | after) later readback
    · exact .unreadAfterWrite read differs set readback
    · exact verdict_behaves (.readingBack read differs set readback.calling)
        fun verdict isVerdict judged =>
          .readBack read differs set returned_isTiltBleTimeout readback isVerdict judged
  rintro (error | ⟨⟩) second set
  · refine Behaves.ite (fun timeout => Behaves.done (.setting read differs set.calling) ?_)
      fun notTimeout => Behaves.done (.setting read differs set.calling)
        (.unset read differs set (by simpa using notTimeout))
    refine Behaves.ite (fun _ => ?_) fun impossible => absurd rfl impossible
    refine Behaves.bind (Behaves.tryCatch ((TiltBleSession.readStatus_behaves second).mono
      (fun later calling => .readingBack read differs set calling) ?_))
    rintro (readError | after) later readback
    · refine Behaves.ite (fun _ => Behaves.done (.readingBack read differs set readback.calling)
        (.unreadAfterTimeout read differs set timeout readback _)) fun notOrdinary => ?_
      exact absurd (readback.ordinary readError rfl) notOrdinary
    · refine verdict_behaves (.readingBack read differs set readback.calling)
        fun verdict isVerdict judged =>
          .readBack read differs set ?_ readback isVerdict judged
      rintro other same
      cases same
      exact timeout
  · have holds : PositionOperating network primitives key percent start second :=
      .setting read differs set.calling
    apply Behaves.done holds
    apply Behaves.ite (fun impossible => nomatch impossible)
    intro _
    refine Behaves.ite (fun _ => ?_) fun _ => settled second set
    exact Behaves.bind (TiltBleSession.sleep_behaves holds (settled second set))

end Operation

section Calls

variable {network : Network} {primitives : CryptoPrimitives} {Result : Type}

/-! ## Invariants of calls -/

variable {invariant : CallerView → Prop} {client : TiltShadeClient}

theorem runSession_keeps {operation : Async Result} {view : CallerView} (holds : invariant view)
    (forgets : invariant view.noSession) (startHolds : invariant view.noSession.newSession)
    (session : Keeps network
      (TiltBleSession.authenticate primitives client.pairingKey >>= fun _ => operation) invariant
      view.noSession.newSession) :
    Keeps network (client.runSession primitives operation) invariant view := by
  have body : Keeps network
      ((callPrimitives primitives client.pairingKey).sessionBody client.shadeId operation)
      invariant view.noSession :=
    sessionBody_behaves forgets (fun _ => forgets) session startHolds fun _ => startHolds
  have acquire : Quiet network (callPrimitives primitives client.pairingKey).acquireBleLock :=
    Quiet.await (fun _ => rfl) nofun
  have factory : Quiet network (callPrimitives primitives client.pairingKey).clientFactory :=
    Quiet.await (fun _ => rfl) nofun
  refine Behaves.bind (acquire.behaves holds ?_)
  rintro (error | ⟨⟩)
  · exact holds
  refine Keeps.tryFinally (Behaves.bind (factory.behaves holds ?_)) fun later => Keeps.done
  rintro (error | ⟨⟩)
  · exact holds
  refine Behaves.update view.noSession ?_ (fun _ => List.Subset.refl _) (List.prefix_refl _) ?_
  · rintro world rfl
    rfl
  apply Keeps.tryFinally body
  intro later holdsLater
  refine Behaves.bind (TiltBleSession.current_then_behaves fun world _ => ?_)
  exact Behaves.done holdsLater
    ((closeBleClient_quiet world.hasSession).behaves holdsLater fun _ => holdsLater)

theorem readStatus_keeps {view : CallerView} (holds : invariant view)
    (forgets : ∀ view, invariant view → invariant view.noSession)
    (starts : ∀ view, invariant view → invariant view.newSession)
    (session : ∀ view, invariant view → Keeps network
      (TiltBleSession.authenticate primitives client.pairingKey >>= fun _ =>
        TiltBleSession.readStatus primitives client.pairingKey) invariant view.newSession) :
    Keeps network (client.readStatus primitives) invariant view := by
  have once : ∀ view, invariant view → Keeps network
      (client.runSession primitives (TiltBleSession.readStatus primitives client.pairingKey))
      invariant view := by
    intro view holds
    have forgotten := forgets view holds
    exact runSession_keeps holds forgotten (starts _ forgotten) (session _ forgotten)
  apply Keeps.tryCatch (once view holds)
  intro error later holdsLater
  refine Behaves.ite (fun _ => ?_) fun _ => Keeps.done holdsLater
  exact Behaves.bind (TiltBleSession.sleep_behaves holdsLater (once later holdsLater))

theorem performAll_keeps
    (perform : ∀ view call, invariant view → Keeps network (client.perform primitives call)
      invariant (view.record (.called call)))
    (calls : List ClientCall) {view : CallerView} (holds : invariant view) :
    Keeps network (client.performAll primitives calls) invariant view := by
  induction calls generalizing view with
  | nil => exact Keeps.done holds
  | cons call calls induction =>
      refine TiltBleSession.record_then_behaves rfl (Keeps.bind ?_ fun _ later => induction)
      exact Keeps.tryCatch (perform view call holds) fun error later => Keeps.done

end Calls

end SmartblindsBle
