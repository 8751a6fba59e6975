import SmartblindsBle.Tilt.CallPool
import SmartblindsBle.Tilt.Transcript

/-! # Serialization of the sessions

The BLE lock is held from the call of a client factory to the end of the client's
`disconnect`, as long as no cancellation reaches a clean-up before its first step
or inside `disconnect`. Each task is reasoned about by itself: what it guarantees
to the others, and what it relies on them for.
-/

namespace SmartblindsBle

open Foundation

namespace CallPool

variable {Call : Type}

/-- A client that is open belongs to the session for which the lock is held, and so
no other client is obtained before its `disconnect` has run to its end. -/
structure Serialized (pool : CallPool Call) : Prop where
  locked : ∀ key, (pool.sessions key).client.isOpen = true → pool.holder = some key
  alone : ∀ key other, (pool.sessions key).client = .obtaining →
    (pool.sessions other).client.isOpen = true → other = key

/-- No cancellation reaches a clean-up before its first step or inside `disconnect`. -/
def Spares (task : PoolTask Call) (choice : PoolChoice) (pool : CallPool Call) : Prop :=
  match task, choice with
  | .cleanup key, .cancelled =>
      (pool.sessions key).cleanup ≠ .created ∧ (pool.sessions key).client ≠ .disconnecting
  | _, _ => True

instance (task : PoolTask Call) (choice : PoolChoice) (pool : CallPool Call) :
    Decidable (Spares task choice pool) :=
  match task, choice with
  | .cleanup _, .cancelled => inferInstanceAs (Decidable (_ ∧ _))
  | .call _, _ | .cleanup _, .completed | .cleanup _, .failed _ | .cleanup _, .connected _ =>
      .isTrue trivial

/-! ## What the tasks guarantee and rely on -/

/-- What every task keeps. -/
structure Orderly (pool : CallPool Call) : Prop where
  locked : ∀ key, (pool.sessions key).client.isOpen = true → pool.holder = some key
  closed : ∀ key outcome, (pool.sessions key).cleanup = .ended outcome →
    (pool.sessions key).client.isOpen = false
  cleaning : ∀ key, (pool.sessions key).cleanup = .created ∨ (pool.sessions key).cleanup = .begun →
    pool.holder = some key

theorem initial_orderly : Orderly (initial : CallPool Call) where
  locked _ isOpen := nomatch isOpen
  closed _ _ _ := rfl
  cleaning _ active := active.elim nofun nofun

theorem Orderly.serialized {pool : CallPool Call} (orderly : Orderly pool) : pool.Serialized := by
  constructor
  · exact orderly.locked
  · intro key other obtaining isOpen
    have obtainingOpen : (pool.sessions key).client.isOpen = true := by
      rw [obtaining]
      rfl
    have held := orderly.locked key obtainingOpen
    exact Option.some.inj ((orderly.locked other isOpen).symm.trans held)

/-- The session differs at most in whether its clean-up is awaited directly. -/
def SameSession (before after : SessionState) : Prop :=
  after = { before with reawaited := after.reawaited }

theorem SameSession.trans {first middle last : SessionState} (earlier : SameSession first middle)
    (later : SameSession middle last) : SameSession first last := by
  unfold SameSession at *
  rw [later, earlier]

theorem SameSession.cleanup {before after : SessionState} (same : SameSession before after) :
    after.cleanup = before.cleanup := by
  rw [SameSession] at same
  rw [same]

theorem SameSession.client {before after : SessionState} (same : SameSession before after) :
    after.client = before.client := by
  rw [SameSession] at same
  rw [same]

/-- What the task of a call does to the sessions. -/
structure CallMoves (call : Call) (before after : CallPool Call) : Prop where
  others : ∀ key, key.call ≠ call → after.sessions key = before.sessions key
  holder : ∀ key, key.call ≠ call → before.holder = some key → after.holder = some key
  cleaned : ∀ key, (before.sessions key).cleanup ≠ .uncreated →
    SameSession (before.sessions key) (after.sessions key)
  orderly : Orderly before → Orderly after

/-- What a clean-up task does to the sessions. -/
structure CleanupMoves (key : SessionKey Call) (before after : CallPool Call) : Prop where
  others : ∀ other, other ≠ key → after.sessions other = before.sessions other
  holder : after.holder = before.holder
  uncreated : (before.sessions key).cleanup = .uncreated →
    after.sessions key = before.sessions key
  created : (before.sessions key).cleanup ≠ .uncreated →
    (after.sessions key).cleanup ≠ .uncreated
  orderly : Orderly before → Orderly after

/-- What the task of a call relies on. -/
structure CallRelies (call : Call) (before after : CallPool Call) : Prop where
  holder : ∀ key, key.call = call → before.holder = some key → after.holder = some key
  uncreated : ∀ key, key.call = call → (before.sessions key).cleanup = .uncreated →
    after.sessions key = before.sessions key
  created : ∀ key, key.call = call → (before.sessions key).cleanup ≠ .uncreated →
    (after.sessions key).cleanup ≠ .uncreated
  orderly : Orderly before → Orderly after

/-- What a clean-up task relies on. -/
structure CleanupRelies (key : SessionKey Call) (before after : CallPool Call) : Prop where
  cleaned : (before.sessions key).cleanup ≠ .uncreated →
    SameSession (before.sessions key) (after.sessions key)
  orderly : Orderly before → Orderly after

/-! ## The clean-up's progress -/

/-- The clean-up is on its way, and its client may be open. -/
structure Running (key : SessionKey Call) (pool : CallPool Call) : Prop where
  orderly : Orderly pool
  begun : (pool.sessions key).cleanup = .begun

/-- The clean-up is on its way, and `disconnect` has run to its end. -/
structure Closed (key : SessionKey Call) (pool : CallPool Call) : Prop where
  orderly : Orderly pool
  begun : (pool.sessions key).cleanup = .begun
  disconnected : (pool.sessions key).client = .disconnected

theorem Running.relied {key : SessionKey Call} {pool later : CallPool Call}
    (running : Running key pool) (relied : CleanupRelies key pool later) :
    Running key later ∧ (later.sessions key).client = (pool.sessions key).client := by
  have created : (pool.sessions key).cleanup ≠ .uncreated := by
    rw [running.begun]
    exact nofun
  have same := relied.cleaned created
  refine ⟨⟨relied.orderly running.orderly, ?_⟩, same.client⟩
  rw [same.cleanup]
  exact running.begun

theorem Closed.relied {key : SessionKey Call} {pool later : CallPool Call}
    (closed : Closed key pool) (relied : CleanupRelies key pool later) :
    Closed key later := by
  have running : Running key pool := ⟨closed.orderly, closed.begun⟩
  rcases running.relied relied with ⟨runningLater, sameClient⟩
  exact ⟨runningLater.orderly, runningLater.begun, sameClient.trans closed.disconnected⟩

/-! ## A call's progress -/

theorem Orderly.acquire {pool : CallPool Call} (orderly : Orderly pool) (free : pool.holder = none)
    (key : SessionKey Call) : Orderly { pool with holder := some key } := by
  constructor
  · intro other isOpen
    cases free.symm.trans (orderly.locked other isOpen)
  · exact orderly.closed
  · intro other active
    cases free.symm.trans (orderly.cleaning other active)

/-- The call has not touched its session with this number, nor a later one. -/
structure Fresh (call : Call) (attempt : Nat) (pool : CallPool Call) : Prop where
  orderly : Orderly pool
  fresh : ∀ key, key.call = call → attempt ≤ key.attempt → pool.sessions key = .initial

/-- The call holds the lock for this session, and has not created its clean-up. -/
structure Holding (key : SessionKey Call) (pool : CallPool Call) : Prop where
  fresh : Fresh key.call (key.attempt + 1) pool
  held : pool.holder = some key
  uncreated : (pool.sessions key).cleanup = .uncreated

/-- The call holds the lock, and waits for the clean-up. -/
structure Cleaning (key : SessionKey Call) (pool : CallPool Call) : Prop where
  fresh : Fresh key.call (key.attempt + 1) pool
  held : pool.holder = some key
  created : (pool.sessions key).cleanup ≠ .uncreated

/-- The call holds the lock, and need not hold it any longer. -/
structure Releasable (key : SessionKey Call) (pool : CallPool Call) : Prop where
  fresh : Fresh key.call (key.attempt + 1) pool
  held : pool.holder = some key
  closed : (pool.sessions key).client.isOpen = false
  inactive : ¬((pool.sessions key).cleanup = .created ∨ (pool.sessions key).cleanup = .begun)

theorem Fresh.later {call : Call} {attempt : Nat} {pool : CallPool Call}
    (fresh : Fresh call attempt pool) : Fresh call (attempt + 1) pool :=
  ⟨fresh.orderly, fun key own more => fresh.fresh key own (Nat.le_of_succ_le more)⟩

theorem Fresh.relied {call : Call} {attempt : Nat} {pool later : CallPool Call}
    (fresh : Fresh call attempt pool) (relied : CallRelies call pool later) :
    Fresh call attempt later := by
  refine ⟨relied.orderly fresh.orderly, ?_⟩
  intro key own more
  have initial := fresh.fresh key own more
  have uncreated : (pool.sessions key).cleanup = .uncreated := by
    rw [initial]
    rfl
  exact (relied.uncreated key own uncreated).trans initial

theorem Holding.relied {key : SessionKey Call} {pool later : CallPool Call}
    (holding : Holding key pool) (relied : CallRelies key.call pool later) :
    Holding key later := by
  refine ⟨holding.fresh.relied relied, relied.holder key rfl holding.held, ?_⟩
  rw [relied.uncreated key rfl holding.uncreated]
  exact holding.uncreated

theorem Cleaning.relied {key : SessionKey Call} {pool later : CallPool Call}
    (cleaning : Cleaning key pool) (relied : CallRelies key.call pool later) :
    Cleaning key later :=
  ⟨cleaning.fresh.relied relied, relied.holder key rfl cleaning.held,
    relied.created key rfl cleaning.created⟩

theorem Cleaning.ended {key : SessionKey Call} {pool : CallPool Call} {outcome : Raises Unit}
    (cleaning : Cleaning key pool) (ended : (pool.sessions key).cleanup = .ended outcome) :
    Releasable key pool := by
  refine ⟨cleaning.fresh, cleaning.held, cleaning.fresh.orderly.closed key outcome ended, ?_⟩
  rw [ended]
  rintro (same | same)
  · cases same
  · cases same

/-! ## Interference -/

def callGuarantee (call : Call) : Interference (CallPool Call) where
  Allows := CallMoves call
  refl _ := ⟨fun _ _ => rfl, fun _ _ held => held, fun _ _ => rfl, id⟩
  trans := by
    intro first middle last earlier later
    constructor
    · intro key other
      exact (later.others key other).trans (earlier.others key other)
    · intro key other held
      exact later.holder key other (earlier.holder key other held)
    · intro key created
      have same := earlier.cleaned key created
      rw [← same.cleanup] at created
      exact same.trans (later.cleaned key created)
    · exact fun orderly => later.orderly (earlier.orderly orderly)

def cleanupGuarantee (key : SessionKey Call) : Interference (CallPool Call) where
  Allows := CleanupMoves key
  refl _ := ⟨fun _ _ => rfl, rfl, fun _ => rfl, id, id⟩
  trans := by
    intro first middle last earlier later
    constructor
    · intro other different
      exact (later.others other different).trans (earlier.others other different)
    · exact later.holder.trans earlier.holder
    · intro uncreated
      have same := earlier.uncreated uncreated
      rw [← same] at uncreated
      exact (later.uncreated uncreated).trans same
    · exact fun created => later.created (earlier.created created)
    · exact fun orderly => later.orderly (earlier.orderly orderly)

def callRely (call : Call) : Interference (CallPool Call) where
  Allows := CallRelies call
  refl _ := ⟨fun _ _ held => held, fun _ _ _ => rfl, fun _ _ created => created, id⟩
  trans := by
    intro first middle last earlier later
    constructor
    · intro key own held
      exact later.holder key own (earlier.holder key own held)
    · intro key own uncreated
      have same := earlier.uncreated key own uncreated
      rw [← same] at uncreated
      exact (later.uncreated key own uncreated).trans same
    · intro key own created
      exact later.created key own (earlier.created key own created)
    · exact fun orderly => later.orderly (earlier.orderly orderly)

def cleanupRely (key : SessionKey Call) : Interference (CallPool Call) where
  Allows := CleanupRelies key
  refl _ := ⟨fun _ => rfl, id⟩
  trans := by
    intro first middle last earlier later
    constructor
    · intro created
      have same := earlier.cleaned created
      rw [← same.cleanup] at created
      exact same.trans (later.cleaned created)
    · exact fun orderly => later.orderly (earlier.orderly orderly)

/-- What a task guarantees, and what it relies on. -/
def guarantee : PoolTask Call → Interference (CallPool Call)
  | .call call => callGuarantee call
  | .cleanup key => cleanupGuarantee key

def rely : PoolTask Call → Interference (CallPool Call)
  | .call call => callRely call
  | .cleanup key => cleanupRely key

theorem Releasable.release {key : SessionKey Call} {pool : CallPool Call}
    (releasable : Releasable key pool) :
    (callGuarantee key.call).Allows pool { pool with holder := none } ∧
      Fresh key.call (key.attempt + 1) { pool with holder := none } := by
  have orderly := releasable.fresh.orderly
  have isKey {other : SessionKey Call} (held : pool.holder = some other) : other = key :=
    Option.some.inj (held.symm.trans releasable.held)
  have released : Orderly { pool with holder := none } := by
    constructor
    · intro other isOpen
      rw [isKey (orderly.locked other isOpen)] at isOpen
      cases releasable.closed.symm.trans isOpen
    · exact orderly.closed
    · intro other active
      rw [isKey (orderly.cleaning other active)] at active
      exact absurd active releasable.inactive
  refine ⟨?_, released, releasable.fresh.fresh⟩
  constructor
  · exact fun _ _ => rfl
  · intro other different held
    exact absurd (congrArg SessionKey.call (isKey held)) different
  · exact fun _ _ => rfl
  · exact fun _ => released

variable [DecidableEq Call]

/-- Each task may rely on what the others guarantee. -/
theorem guarantee_relied {task other : PoolTask Call} (different : other ≠ task)
    {before after : CallPool Call} (moved : (guarantee other).Allows before after) :
    (rely task).Allows before after := by
  cases task with
  | call call =>
      cases other with
      | call mover =>
          have apart (key : SessionKey Call) (own : key.call = call) : key.call ≠ mover := by
            intro same
            exact different (congrArg PoolTask.call (same.symm.trans own))
          constructor
          · intro key own held
            exact moved.holder key (apart key own) held
          · intro key own _
            exact moved.others key (apart key own)
          · intro key own created
            rw [moved.others key (apart key own)]
            exact created
          · exact moved.orderly
      | cleanup cleaned =>
          constructor
          · intro key _ held
            rw [moved.holder]
            exact held
          · intro key _ uncreated
            by_cases same : key = cleaned
            · rw [same] at uncreated ⊢
              exact moved.uncreated uncreated
            · exact moved.others key same
          · intro key _ created
            by_cases same : key = cleaned
            · rw [same] at created ⊢
              exact moved.created created
            · rw [moved.others key same]
              exact created
          · exact moved.orderly
  | cleanup key =>
      cases other with
      | call mover =>
          constructor
          · exact moved.cleaned key
          · exact moved.orderly
      | cleanup cleaned =>
          have apart : key ≠ cleaned := fun same => different (congrArg PoolTask.cleanup same.symm)
          constructor
          · intro _
            rw [moved.others key apart]
            exact rfl
          · exact moved.orderly

/-! ## Moves -/

theorem Orderly.modifySession {pool : CallPool Call} (orderly : Orderly pool)
    {key : SessionKey Call} {transform : SessionState → SessionState}
    (held : pool.holder = some key)
    (closed : ∀ outcome, (transform (pool.sessions key)).cleanup = .ended outcome →
      (transform (pool.sessions key)).client.isOpen = false) :
    Orderly (pool.modifySession key transform) := by
  constructor
  · intro other isOpen
    by_cases same : other = key
    · rw [same, modifySession_holder, held]
    · rw [modifySession_other same] at isOpen
      exact orderly.locked other isOpen
  · intro other outcome ended
    by_cases same : other = key
    · rw [same, modifySession_self] at ended ⊢
      exact closed outcome ended
    · rw [modifySession_other same] at ended ⊢
      exact orderly.closed other outcome ended
  · intro other active
    by_cases same : other = key
    · rw [same, modifySession_holder, held]
    · rw [modifySession_other same] at active
      exact orderly.cleaning other active

theorem callMoves_modifySession {pool : CallPool Call} {key : SessionKey Call}
    {transform : SessionState → SessionState} (held : pool.holder = some key)
    (uncreated : (pool.sessions key).cleanup = .uncreated)
    (notEnded : ∀ outcome, (transform (pool.sessions key)).cleanup ≠ .ended outcome) :
    CallMoves key.call pool (pool.modifySession key transform) := by
  constructor
  · intro other different
    exact modifySession_other (fun same => different (congrArg SessionKey.call same)) ..
  · exact fun _ _ isHeld => isHeld
  · intro other created
    by_cases same : other = key
    · rw [same] at created
      exact absurd uncreated created
    · rw [modifySession_other same]
      exact rfl
  · intro orderly
    exact orderly.modifySession held fun outcome ended => absurd ended (notEnded outcome)

theorem cleanupMoves_modifySession {pool : CallPool Call} {key : SessionKey Call}
    {transform : SessionState → SessionState}
    (active : (pool.sessions key).cleanup = .created ∨ (pool.sessions key).cleanup = .begun)
    (created : (transform (pool.sessions key)).cleanup ≠ .uncreated)
    (closed : ∀ outcome, (transform (pool.sessions key)).cleanup = .ended outcome →
      (transform (pool.sessions key)).client.isOpen = false) :
    CleanupMoves key pool (pool.modifySession key transform) := by
  constructor
  · intro other different
    exact modifySession_other different ..
  · rfl
  · intro uncreated
    rcases active with isCreated | isBegun
    · cases uncreated.symm.trans isCreated
    · cases uncreated.symm.trans isBegun
  · intro _
    rw [modifySession_self]
    exact created
  · intro orderly
    exact orderly.modifySession (orderly.cleaning key active) closed

/-! ## The clean-up -/

/-- The task of a clean-up, in runs that spare it. -/
abbrev CleanupAssures {Result : Type} (key : SessionKey Call) (pre : CallPool Call → Prop)
    (code : PoolAsync Call Result) (post : Raises Result → CallPool Call → Prop) : Prop :=
  code.Assures ((environment.restrict Spares).view (.cleanup key)) (cleanupRely key)
    (cleanupGuarantee key) pre post

theorem restrict_answer_eq {task : PoolTask Call} {awaited : PoolOperation Call}
    {choice : PoolChoice} {reply : Raises awaited.Reply} {pool after : CallPool Call}
    (answered : ((environment.restrict Spares).view task).answer awaited choice pool =
      some (reply, after)) :
    Spares task choice pool ∧ answer task awaited choice pool = some (reply, after) :=
  Option.ite_none_right_eq_some.mp answered

theorem plain_assures {task : PoolTask Call} {relied guaranteed : Interference (CallPool Call)}
    {awaited : PoolOperation Call} (plain : isPlain awaited = true)
    {stage : CallPool Call → Prop}
    (stable : ∀ pool later, stage pool → relied.Allows pool later → stage later) :
    (await awaited).Assures ((environment.restrict Spares).view task) relied guaranteed stage
      fun _ => stage := by
  apply Coroutine.Assures.perform
  · intro pool holds
    have entered : ((environment.restrict Spares).view task).enter awaited pool = pool :=
      enter_plain plain pool
    rw [entered]
    exact ⟨guaranteed.refl pool, holds⟩
  · exact stable
  · intro later choice reply after holds answered
    rw [answer_plain plain (restrict_answer_eq answered).2]
    exact ⟨guaranteed.refl later, holds⟩

theorem hasSession_assures {task : PoolTask Call}
    {relied guaranteed : Interference (CallPool Call)} (key : SessionKey Call)
    {stage : CallPool Call → Prop} :
    (sessionPrimitives key).hasSession.Assures ((environment.restrict Spares).view task) relied
      guaranteed stage fun outcome pool => (∃ session, outcome = .ok session) ∧ stage pool := by
  have current : (Coroutine.current : PoolAsync Call (CallPool Call)).Assures
      ((environment.restrict Spares).view task) relied guaranteed stage
      fun outcome pool => (∃ state, outcome = .ok state) ∧ stage pool :=
    Coroutine.Assures.current fun pool holds => ⟨⟨pool, rfl⟩, holds⟩
  apply Coroutine.Assures.bind current
  · intro state
    exact Coroutine.Assures.done fun _ holds => ⟨⟨_, rfl⟩, holds.2⟩
  · intro error _ holds
    rcases holds.1 with ⟨state, same⟩
    cases same

section Cleanup

variable {key : SessionKey Call}

theorem running_assures {awaited : PoolOperation Call} (plain : isPlain awaited = true) :
    CleanupAssures key (Running key) (await awaited) fun _ => Running key := by
  apply plain_assures plain
  intro pool later running relied
  exact (running.relied relied).1

theorem closed_assures {awaited : PoolOperation Call} (plain : isPlain awaited = true) :
    CleanupAssures key (Closed key) (await awaited) fun _ => Closed key := by
  apply plain_assures plain
  intro pool later closed relied
  exact closed.relied relied

theorem Running.modifySession {pool : CallPool Call} (running : Running key pool)
    (transform : SessionState → SessionState)
    (keeps : ∀ session, (transform session).cleanup = session.cleanup) :
    (cleanupGuarantee key).Allows pool (pool.modifySession key transform) ∧
      Running key (pool.modifySession key transform) := by
  have begun : (transform (pool.sessions key)).cleanup = .begun :=
    (keeps _).trans running.begun
  have moves : CleanupMoves key pool (pool.modifySession key transform) := by
    apply cleanupMoves_modifySession (.inr running.begun)
    · rw [begun]
      exact nofun
    · intro outcome ended
      cases begun.symm.trans ended
  refine ⟨moves, moves.orderly running.orderly, ?_⟩
  rw [modifySession_self]
  exact begun

theorem takeWorker_assures : CleanupAssures key (Running key) (sessionPrimitives key).takeWorker
    fun _ => Running key := by
  have reads : CleanupAssures key (Running key) Coroutine.current fun _ => Running key :=
    Coroutine.Assures.current fun _ running => running
  have detaches : CleanupAssures key (Running key)
      (Coroutine.modify (modifySession key fun session => { session with hasWorker := false }))
      fun _ => Running key := by
    apply Coroutine.Assures.modify
    intro pool running
    exact running.modifySession _ fun _ => rfl
  apply reads.chain
  intro pool
  apply detaches.chain
  intro _
  exact Coroutine.Assures.remains _

theorem swallowing_assures {pre stage : CallPool Call → Prop} {code : PoolAsync Call Unit}
    (assures : CleanupAssures key pre code fun _ => stage) (swallowed : PythonException → Bool) :
    CleanupAssures key pre (tryCatch code fun error =>
      if swallowed error then pure () else throw error) fun _ => stage := by
  apply Coroutine.Assures.tryCatch assures
  · intro _ _ holds
    exact holds
  · intro error
    split
    · exact Coroutine.Assures.remains _
    · exact Coroutine.Assures.remains _

theorem stop_assures : CleanupAssures key (Running key) (sessionPrimitives key).stop
    fun _ => Running key := by
  have stopNotify : CleanupAssures key (Running key) (await .stopNotify) fun _ => Running key :=
    running_assures rfl
  have awaitWorker : CleanupAssures key (Running key) (await .awaitWorker)
      fun _ => Running key := running_assures rfl
  have stopsNotify : CleanupAssures key (Running key)
      (tryCatch (await .stopNotify) fun error =>
        if error.isOrdinary then pure () else throw error) fun _ => Running key :=
    swallowing_assures stopNotify PythonException.isOrdinary
  have awaitsWorker : CleanupAssures key (Running key)
      (tryCatch (await .awaitWorker) fun error =>
        if error = .cancelledError then pure () else throw error) fun _ => Running key := by
    have swallows := swallowing_assures awaitWorker fun error => decide (error = .cancelledError)
    simp only [decide_eq_true_eq] at swallows
    exact swallows
  apply takeWorker_assures.chain
  intro worker
  cases worker with
  | false => exact stopsNotify
  | true => exact awaitsWorker.chain fun _ => stopsNotify

/-- However `disconnect` ends, it has run to its end: nothing interrupts it. -/
theorem disconnect_assures : CleanupAssures key (Running key) (await (.disconnect key))
    fun _ => Closed key := by
  have ends {pool : CallPool Call} (running : Running key pool) :
      (cleanupGuarantee key).Allows pool (pool.setClient key .disconnected) ∧
        Closed key (pool.setClient key .disconnected) := by
    rcases running.modifySession (fun session => { session with client := .disconnected })
      (fun _ => rfl) with ⟨moves, runningAfter⟩
    exact ⟨moves, runningAfter.orderly, runningAfter.begun,
      setClient_client key .disconnected pool⟩
  have stable (pool later : CallPool Call)
      (holds : Running key pool ∧ (pool.sessions key).client = .disconnecting)
      (relied : (cleanupRely key).Allows pool later) :
      Running key later ∧ (later.sessions key).client = .disconnecting := by
    rcases holds.1.relied relied with ⟨running, sameClient⟩
    exact ⟨running, sameClient.trans holds.2⟩
  refine Coroutine.Assures.perform ?_ stable ?_
  · intro pool running
    rcases running.modifySession (fun session => { session with client := .disconnecting })
      (fun _ => rfl) with ⟨moves, runningAfter⟩
    exact ⟨moves, runningAfter, setClient_client key .disconnecting pool⟩
  · intro later choice reply after holds answered
    rcases restrict_answer_eq answered with ⟨spares, enabled⟩
    cases choice with
    | completed =>
        cases enabled
        exact ends holds.1
    | failed error =>
        cases enabled
        exact ends holds.1
    | cancelled => exact absurd holds.2 spares.2
    | connected connected => cases enabled

/-- `_close_ble_client` runs `disconnect` to its end, whatever happens before it. -/
theorem closeBleClient_assures (session : Bool) : CleanupAssures key (Running key)
    ((sessionPrimitives key).closeBleClient session) fun _ => Closed key := by
  have isConnected : CleanupAssures key (Closed key) (await .isConnected) fun _ => Closed key :=
    closed_assures rfl
  have checks (message : String) : CleanupAssures key (Closed key)
      (do
        let connected ← (sessionPrimitives key).isConnected
        if connected then throw (.tiltBleCleanupError message)) fun _ => Closed key := by
    apply isConnected.chain
    intro connected
    cases connected with
    | true => exact Coroutine.Assures.remains _
    | false => exact Coroutine.Assures.remains _
  have stops : CleanupAssures key (Running key)
      (if session then (sessionPrimitives key).stop else pure ()) fun _ => Running key := by
    cases session with
    | true => exact stop_assures
    | false => exact Coroutine.Assures.remains _
  have disconnects : CleanupAssures key (Running key)
      (tryCatch (sessionPrimitives key).disconnect fun error =>
        if error.isOrdinary then do
          let connected ← (sessionPrimitives key).isConnected
          if connected then throw (.tiltBleCleanupError "Tilt BLE client disconnect failed.")
        else throw error) fun _ => Closed key := by
    apply Coroutine.Assures.tryCatch disconnect_assures
    · intro _ _ closed
      exact closed
    · intro error
      split
      · exact checks _
      · exact Coroutine.Assures.remains _
  have released : CleanupAssures key (Running key)
      (tryFinally (if session then (sessionPrimitives key).stop else pure ())
        (tryCatch (sessionPrimitives key).disconnect fun error =>
          if error.isOrdinary then do
            let connected ← (sessionPrimitives key).isConnected
            if connected then throw (.tiltBleCleanupError "Tilt BLE client disconnect failed.")
          else throw error)) fun _ => Closed key := by
    apply Coroutine.Assures.tryFinally stops
    intro outcome
    apply disconnects.weaken
    intro cleaned pool closed
    cases cleaned with
    | ok _ => exact closed
    | error error => exact closed
  exact released.chain fun _ => checks _

theorem begin_assures : CleanupAssures key Orderly (await .begin) fun outcome pool =>
    outcome = .ok () ∧ Running key pool := by
  refine Coroutine.Assures.perform ?_ (fun pool later orderly relied =>
    CleanupRelies.orderly relied orderly) ?_
  · intro pool orderly
    exact ⟨(cleanupGuarantee key).refl pool, orderly⟩
  · intro later choice reply after orderly answered
    rcases restrict_answer_eq answered with ⟨spares, enabled⟩
    cases choice with
    | completed =>
        rcases Option.ite_none_right_eq_some.mp enabled with ⟨created, begins⟩
        cases begins
        have moves : CleanupMoves key later (later.setCleanup key .begun) :=
          cleanupMoves_modifySession (.inl created) nofun nofun
        exact ⟨moves, rfl, moves.orderly orderly, setCleanup_cleanup key .begun later⟩
    | failed error => cases enabled
    | cancelled =>
        rcases answer_cancelled enabled with ⟨cancellable, _⟩
        exact absurd cancellable.2 spares.1
    | connected connected => cases enabled

/-- The task of a clean-up keeps its guarantee. -/
theorem cleanupTask_assures : CleanupAssures key Orderly (cleanupTask key) fun _ _ => True := by
  have closes (session : Bool) : CleanupAssures key (Running key)
      (do
        (sessionPrimitives key).closeBleClient session
        pure (.ok ()) : PoolAsync Call (Raises Unit)) fun _ => Closed key :=
    (closeBleClient_assures session).chain fun _ => Coroutine.Assures.remains _
  have runs : CleanupAssures key Orderly
      (do
        await .begin
        let session ← (sessionPrimitives key).hasSession
        (sessionPrimitives key).closeBleClient session
        pure (.ok ()) : PoolAsync Call (Raises Unit)) fun _ => Closed key := by
    apply Coroutine.Assures.bind begin_assures
    · intro _
      apply Coroutine.Assures.bind ((hasSession_assures key).only fun _ holds => holds.2)
      · intro session
        exact (closes session).only fun _ holds => holds.2
      · intro error _ holds
        rcases holds.1 with ⟨session, same⟩
        cases same
    · intro error _ holds
      cases holds.1
  have attempts : CleanupAssures key Orderly
      (tryCatch
        (do
          await .begin
          let session ← (sessionPrimitives key).hasSession
          (sessionPrimitives key).closeBleClient session
          pure (.ok ()) : PoolAsync Call (Raises Unit))
        fun error => pure (.error error)) fun _ => Closed key := by
    apply Coroutine.Assures.tryCatch runs
    · intro _ _ closed
      exact closed
    · exact fun _ => Coroutine.Assures.remains _
  apply Coroutine.Assures.bind attempts
  · intro outcome
    apply Coroutine.Assures.modify
    intro pool closed
    refine ⟨?_, trivial⟩
    apply cleanupMoves_modifySession (.inr closed.begun)
    · exact nofun
    · intro _ _
      change (pool.sessions key).client.isOpen = false
      rw [closed.disconnected]
      rfl
  · exact fun _ _ _ => trivial

end Cleanup

/-! ## The calls -/

/-- The task of a call, in runs that spare the clean-ups. -/
abbrev CallAssures {Result : Type} (call : Call) (pre : CallPool Call → Prop)
    (code : PoolAsync Call Result) (post : Raises Result → CallPool Call → Prop) : Prop :=
  code.Assures ((environment.restrict Spares).view (.call call)) (callRely call)
    (callGuarantee call) pre post

section Calls

variable {key : SessionKey Call}

theorem Fresh.modifySession {pool : CallPool Call} (fresh : Fresh key.call (key.attempt + 1) pool)
    {transform : SessionState → SessionState}
    (orderly : Orderly (pool.modifySession key transform)) :
    Fresh key.call (key.attempt + 1) (pool.modifySession key transform) := by
  refine ⟨orderly, ?_⟩
  intro other own more
  have different : other ≠ key := by
    intro same
    rw [same] at more
    exact Nat.not_succ_le_self _ more
  rw [modifySession_other different]
  exact fresh.fresh other own more

theorem Holding.modifySession {pool : CallPool Call} (holding : Holding key pool)
    (transform : SessionState → SessionState)
    (keeps : ∀ session, (transform session).cleanup = session.cleanup) :
    (callGuarantee key.call).Allows pool (pool.modifySession key transform) ∧
      Holding key (pool.modifySession key transform) := by
  have uncreated : (transform (pool.sessions key)).cleanup = .uncreated :=
    (keeps _).trans holding.uncreated
  have moves : CallMoves key.call pool (pool.modifySession key transform) := by
    apply callMoves_modifySession holding.held holding.uncreated
    intro outcome ended
    cases uncreated.symm.trans ended
  refine ⟨moves, holding.fresh.modifySession (moves.orderly holding.fresh.orderly),
    holding.held, ?_⟩
  rw [modifySession_self]
  exact uncreated

theorem holding_assures {awaited : PoolOperation Call} (plain : isPlain awaited = true) :
    CallAssures key.call (Holding key) (await awaited) fun _ => Holding key := by
  apply plain_assures plain
  intro pool later holding relied
  exact holding.relied relied

theorem holding_modify (transform : SessionState → SessionState)
    (keeps : ∀ session, (transform session).cleanup = session.cleanup) :
    CallAssures key.call (Holding key) (Coroutine.modify (modifySession key transform))
      fun _ => Holding key := by
  apply Coroutine.Assures.modify
  intro pool holding
  exact holding.modifySession transform keeps

/-- The lock is acquired. -/
theorem acquireBleLock_assures : CallAssures key.call (Fresh key.call key.attempt)
    (await (.acquireBleLock key)) fun outcome pool => match outcome with
      | .ok _ => Holding key pool
      | .error _ => Fresh key.call (key.attempt + 1) pool := by
  refine Coroutine.Assures.perform ?_ (fun _ _ => @Fresh.relied Call key.call key.attempt _ _) ?_
  · intro pool fresh
    exact ⟨(callGuarantee key.call).refl pool, fresh⟩
  · intro later choice reply after fresh answered
    cases choice with
    | completed =>
        have enabled := (restrict_answer_eq answered).2
        simp only [answer, complete] at enabled
        split at enabled
        · next free =>
            cases enabled
            have orderly := fresh.orderly.acquire free key
            have initial := fresh.fresh key rfl (Nat.le_refl _)
            constructor
            · constructor
              · exact fun _ _ => rfl
              · intro _ _ held
                cases free.symm.trans held
              · exact fun _ _ => rfl
              · exact fun _ => orderly
            · constructor
              · exact ⟨orderly, fresh.later.fresh⟩
              · rfl
              · change (later.sessions key).cleanup = .uncreated
                rw [initial]
                rfl
        · cases enabled
    | failed error => cases (restrict_answer_eq answered).2
    | cancelled =>
        rcases answer_cancelled (restrict_answer_eq answered).2 with ⟨_, interrupted⟩
        cases interrupted
        exact ⟨(callGuarantee key.call).refl _, fresh.later⟩
    | connected connected => cases (restrict_answer_eq answered).2

/-- The client is obtained, or there is none. -/
theorem clientFactory_assures : CallAssures key.call (Holding key) (await (.clientFactory key))
    fun outcome pool => match outcome with
      | .ok _ => Holding key pool
      | .error _ => Releasable key pool := by
  have absent {pool : CallPool Call} (holding : Holding key pool) :
      (callGuarantee key.call).Allows pool (pool.setClient key .absent) ∧
        Releasable key (pool.setClient key .absent) := by
    rcases holding.modifySession (fun session => { session with client := .absent })
      (fun _ => rfl) with ⟨moves, after⟩
    refine ⟨moves, after.fresh, after.held, ?_, ?_⟩
    · rw [setClient_client]
      rfl
    · have uncreated : ((pool.setClient key .absent).sessions key).cleanup = .uncreated :=
        after.uncreated
      rw [uncreated]
      rintro (same | same)
      · cases same
      · cases same
  refine Coroutine.Assures.perform ?_ (fun _ _ => Holding.relied) ?_
  · intro pool holding
    exact holding.modifySession (fun session => { session with client := .obtaining })
      fun _ => rfl
  · intro later choice reply after holding answered
    cases choice with
    | completed =>
        cases (restrict_answer_eq answered).2
        exact holding.modifySession (fun session => { session with client := .held }) fun _ => rfl
    | failed error =>
        cases (restrict_answer_eq answered).2
        exact absent holding
    | cancelled =>
        rcases answer_cancelled (restrict_answer_eq answered).2 with ⟨_, interrupted⟩
        cases interrupted
        exact absent holding
    | connected connected => cases (restrict_answer_eq answered).2

/-- The body of the session leaves the clean-up to be created. -/
theorem sessionBody_assures (shadeId : String) : CallAssures key.call (Holding key)
    ((sessionPrimitives key).sessionBody shadeId (await .runOperation)) fun _ => Holding key := by
  have isConnected : CallAssures key.call (Holding key) (await .isConnected)
      fun _ => Holding key := holding_assures rfl
  have connect : CallAssures key.call (Holding key) (await .connect) fun _ => Holding key :=
    holding_assures rfl
  have startNotify : CallAssures key.call (Holding key) (await .startNotify)
      fun _ => Holding key := holding_assures rfl
  have authenticate : CallAssures key.call (Holding key) (await .authenticate)
      fun _ => Holding key := holding_assures rfl
  have createSession := @holding_modify Call _ key
    (fun session => { session with hasSession := true }) fun _ => rfl
  have startWorker := @holding_modify Call _ key
    (fun session => { session with hasWorker := true }) fun _ => rfl
  have operates : CallAssures key.call (Holding key)
      (do
        (sessionPrimitives key).createSession
        (sessionPrimitives key).start
        (sessionPrimitives key).authenticate
        await .runOperation : PoolAsync Call Unit) fun _ => Holding key := by
    apply createSession.chain
    intro _
    apply (startNotify.chain fun _ => startWorker).chain
    intro _
    apply authenticate.chain
    intro _
    exact holding_assures rfl
  have checks : CallAssures key.call (Holding key)
      (do
        let connected ← (sessionPrimitives key).isConnected
        if connected = false then
          throw (.tiltBleError ("Unable to connect to configured shade " ++ shadeId ++ "."))
        (sessionPrimitives key).createSession
        (sessionPrimitives key).start
        (sessionPrimitives key).authenticate
        await .runOperation : PoolAsync Call Unit) fun _ => Holding key := by
    apply isConnected.chain
    intro connected
    cases connected with
    | true => exact operates
    | false => exact Coroutine.Assures.remains _
  apply isConnected.chain
  intro connected
  cases connected with
  | true => exact checks
  | false => exact connect.chain fun _ => checks

theorem createCleanup_assures : CallAssures key.call (Holding key)
    (Coroutine.modify (setCleanup key .created)) fun outcome pool =>
      outcome = .ok () ∧ Cleaning key pool := by
  apply Coroutine.Assures.modify
  intro pool holding
  have moves : CallMoves key.call pool (pool.setCleanup key .created) :=
    callMoves_modifySession holding.held holding.uncreated fun _ => nofun
  refine ⟨moves, rfl, holding.fresh.modifySession (moves.orderly holding.fresh.orderly),
    holding.held, ?_⟩
  rw [setCleanup_cleanup]
  exact nofun

theorem shieldCleanup_assures : CallAssures key.call (Cleaning key)
    (await (.shieldCleanup key)) fun outcome pool =>
      Cleaning key pool ∧ (outcome ≠ .error .cancelledError → Releasable key pool) := by
  refine Coroutine.Assures.perform ?_ (fun _ _ => Cleaning.relied) ?_
  · intro pool cleaning
    exact ⟨(callGuarantee key.call).refl pool, cleaning⟩
  · intro later choice reply after cleaning answered
    cases choice with
    | completed =>
        rcases awaitEnded_eq_some (restrict_answer_eq answered).2 with ⟨ended, rfl⟩
        exact ⟨(callGuarantee key.call).refl after, cleaning, fun _ => cleaning.ended ended⟩
    | failed error => cases (restrict_answer_eq answered).2
    | cancelled =>
        rcases answer_cancelled (restrict_answer_eq answered).2 with ⟨_, interrupted⟩
        cases interrupted
        exact ⟨(callGuarantee key.call).refl _, cleaning, fun other => absurd rfl other⟩
    | connected connected => cases (restrict_answer_eq answered).2

theorem Cleaning.reawait {pool : CallPool Call} (cleaning : Cleaning key pool) :
    (callGuarantee key.call).Allows pool (pool.setReawaited key) ∧
      Cleaning key (pool.setReawaited key) := by
  have moves : CallMoves key.call pool (pool.setReawaited key) := by
    constructor
    · intro other different
      exact modifySession_other (fun same => different (congrArg SessionKey.call same)) ..
    · exact fun _ _ held => held
    · intro other _
      by_cases same : other = key
      · rw [same, setReawaited, modifySession_self]
        exact rfl
      · rw [setReawaited, modifySession_other same]
        exact rfl
    · intro orderly
      exact orderly.modifySession cleaning.held fun outcome ended =>
        orderly.closed key outcome ended
  refine ⟨moves, cleaning.fresh.modifySession (moves.orderly cleaning.fresh.orderly),
    cleaning.held, ?_⟩
  rw [setReawaited, modifySession_self]
  exact cleaning.created

theorem awaitCleanup_assures : CallAssures key.call (Cleaning key)
    (await (.awaitCleanup key)) fun _ => Releasable key := by
  refine Coroutine.Assures.perform ?_ (fun _ _ => Cleaning.relied) ?_
  · intro pool cleaning
    exact cleaning.reawait
  · intro later choice reply after cleaning answered
    cases choice with
    | completed =>
        rcases awaitEnded_eq_some (restrict_answer_eq answered).2 with ⟨ended, rfl⟩
        exact ⟨(callGuarantee key.call).refl after, cleaning.ended ended⟩
    | failed error => cases (restrict_answer_eq answered).2
    | cancelled =>
        rcases answer_cancelled (restrict_answer_eq answered).2 with ⟨cancellable, interrupted⟩
        cases interrupted
        rcases Option.isSome_iff_exists.mp cancellable with ⟨⟨outcome, same⟩, isEnded⟩
        exact ⟨(callGuarantee key.call).refl _, cleaning.ended (awaitEnded_eq_some isEnded).1⟩
    | connected connected => cases (restrict_answer_eq answered).2

/-- Whatever is cancelled, the clean-up has ended when the call goes on. -/
theorem safeCleanup_assures : CallAssures key.call (Holding key)
    (awaitCancellationSafeCleanup key) fun _ => Releasable key := by
  have again : CallAssures key.call (Cleaning key)
      (tryCatch (await (.awaitCleanup key)) fun error =>
        if error.isOrdinary then pure () else throw error) fun _ => Releasable key := by
    apply Coroutine.Assures.tryCatch awaitCleanup_assures
    · intro _ _ releasable
      exact releasable
    · intro error
      split
      · exact Coroutine.Assures.remains _
      · exact Coroutine.Assures.remains _
  have waits : CallAssures key.call (Cleaning key)
      (tryCatch (await (.shieldCleanup key)) fun error =>
        if error = .cancelledError then do
          tryCatch (await (.awaitCleanup key)) (fun error =>
            if error.isOrdinary then pure () else throw error)
          throw error
        else throw error) fun _ => Releasable key := by
    apply Coroutine.Assures.tryCatch shieldCleanup_assures
    · intro _ _ ends
      exact ends.2 nofun
    · intro error
      split
      · apply Coroutine.Assures.only (again.chain fun _ => Coroutine.Assures.remains _)
        intro _ ends
        exact ends.1
      · next other =>
          apply Coroutine.Assures.done
          intro _ ends
          apply ends.2
          intro same
          cases same
          exact other rfl
  apply Coroutine.Assures.bind createCleanup_assures
  · intro _
    exact waits.only fun _ holds => holds.2
  · intro _ _ holds
    cases holds.1

/-- `_run_session` gives the lock up when its client is no longer open. -/
theorem runSession_assures (client : TiltShadeClient) : CallAssures key.call
    (Fresh key.call key.attempt) (runSession client key)
      fun _ => Fresh key.call (key.attempt + 1) := by
  have forgets : CallAssures key.call (Holding key) (sessionPrimitives key).forgetSession
      fun outcome pool => outcome = .ok () ∧ Holding key pool := by
    apply Coroutine.Assures.modify
    intro pool holding
    rcases holding.modifySession (fun session => { session with hasSession := false })
      (fun _ => rfl) with ⟨moves, after⟩
    exact ⟨moves, rfl, after⟩
  have cleans : CallAssures key.call (Holding key)
      (do
        let session ← (sessionPrimitives key).hasSession
        (sessionPrimitives key).awaitCancellationSafeCleanup
          ((sessionPrimitives key).closeBleClient session)) fun _ => Releasable key := by
    apply Coroutine.Assures.bind (hasSession_assures key)
    · intro _
      exact safeCleanup_assures.only fun _ holds => holds.2
    · intro _ _ holds
      rcases holds.1 with ⟨session, same⟩
      cases same
  have uses : CallAssures key.call (Holding key)
      (tryFinally ((sessionPrimitives key).sessionBody client.shadeId (await .runOperation))
        (do
          let session ← (sessionPrimitives key).hasSession
          (sessionPrimitives key).awaitCancellationSafeCleanup
            ((sessionPrimitives key).closeBleClient session))) fun _ => Releasable key := by
    apply Coroutine.Assures.tryFinally (sessionBody_assures client.shadeId)
    intro _
    apply cleans.weaken
    intro cleaned _ releasable
    cases cleaned with
    | ok _ => exact releasable
    | error error => exact releasable
  have holds : CallAssures key.call (Holding key)
      (do
        (sessionPrimitives key).clientFactory
        (sessionPrimitives key).forgetSession
        tryFinally ((sessionPrimitives key).sessionBody client.shadeId (await .runOperation))
          (do
            let session ← (sessionPrimitives key).hasSession
            (sessionPrimitives key).awaitCancellationSafeCleanup
              ((sessionPrimitives key).closeBleClient session))) fun _ => Releasable key := by
    apply Coroutine.Assures.bind clientFactory_assures
    · intro _
      apply Coroutine.Assures.bind forgets
      · intro _
        exact uses.only fun _ holds => holds.2
      · intro _ _ holds
        cases holds.1
    · exact fun _ _ releasable => releasable
  have releases : CallAssures key.call (Releasable key) (sessionPrimitives key).releaseBleLock
      fun _ => Fresh key.call (key.attempt + 1) := by
    apply Coroutine.Assures.modify
    intro pool releasable
    exact releasable.release
  apply Coroutine.Assures.bind acquireBleLock_assures
  · intro _
    apply Coroutine.Assures.tryFinally holds
    intro _
    apply releases.weaken
    intro cleaned _ fresh
    cases cleaned with
    | ok _ => exact fresh
    | error error => exact fresh
  · exact fun _ _ fresh => fresh

theorem callBegins_assures (call : Call) :
    CallAssures call (Fresh call 0) (await .begin) fun _ => Fresh call 0 := by
  refine Coroutine.Assures.perform ?_ (fun _ _ => @Fresh.relied Call call 0 _ _) ?_
  · intro pool fresh
    exact ⟨(callGuarantee call).refl pool, fresh⟩
  · intro later choice reply after fresh answered
    have enabled := (restrict_answer_eq answered).2
    cases choice with
    | completed =>
        cases enabled
        exact ⟨(callGuarantee call).refl _, fresh⟩
    | failed error => cases enabled
    | cancelled =>
        cases enabled
        exact ⟨(callGuarantee call).refl _, fresh⟩
    | connected connected => cases enabled

/-- The task of a call keeps its guarantee. -/
theorem callTask_assures (client : TiltShadeClient) (call : Call) (clientCall : ClientCall) :
    CallAssures call (Fresh call 0) (callTask client call clientCall) fun _ _ => True := by
  have first : CallAssures call (Fresh call 0) (runSession client ⟨call, 0⟩)
      fun _ => Fresh call 1 := @runSession_assures Call _ ⟨call, 0⟩ client
  have second : CallAssures call (Fresh call 1) (runSession client ⟨call, 1⟩)
      fun _ => Fresh call 2 := @runSession_assures Call _ ⟨call, 1⟩ client
  have sleeps : CallAssures call (Fresh call 1) (await (.sleep statusReadRetryDelaySeconds))
      fun _ => Fresh call 1 :=
    plain_assures rfl fun _ _ => Fresh.relied
  cases clientCall with
  | readStatus =>
      apply Coroutine.Assures.bind (callBegins_assures call)
      · intro _
        apply Coroutine.Assures.tryCatch first
        · exact fun _ _ _ => trivial
        · intro error
          split
          · apply Coroutine.Assures.bind sleeps
            · intro _
              exact second.weaken fun _ _ _ => trivial
            · exact fun _ _ _ => trivial
          · exact Coroutine.Assures.done fun _ _ => trivial
      · exact fun _ _ _ => trivial
  | setPositionAndReadStatus positionPercent settleSeconds =>
      apply Coroutine.Assures.bind (callBegins_assures call)
      · intro _
        cases requested : client.requestedPosition positionPercent with
        | error error => exact Coroutine.Assures.done fun _ _ => trivial
        | ok percent => exact first.weaken fun _ _ _ => trivial
      · exact fun _ _ _ => trivial

end Calls

/-! ## Runs -/

variable (clients : Call → TiltShadeClient) (calls : Call → ClientCall)

theorem start_waits : Pool.AllWait (environment.restrict Spares) rely
    (fun task => (guarantee task).Allows) (start clients calls) := by
  intro task
  cases task with
  | call call =>
      have fresh : Fresh call 0 initial := ⟨initial_orderly, fun _ _ _ => rfl⟩
      have waits := (callTask_assures (clients call) call (calls call)).settle fresh
      change Coroutine.Waits _ _ _ (callTask (clients call) call (calls call)) initial
      generalize calls call = clientCall at waits ⊢
      cases clientCall with
      | readStatus => exact waits
      | setPositionAndReadStatus positionPercent settleSeconds => exact waits
  | cleanup key => exact (@cleanupTask_assures Call _ key).settle initial_orderly

/-- However the calls interleave, fail and are cancelled, their sessions stay
serialized along every run in which no cancellation reaches a clean-up before its
first step or inside `disconnect`. -/
theorem sessions_serialized
    {events : List (PoolEvent (PoolTask Call) Empty PoolChoice)}
    {last : Pool (PoolTask Call) (CallPool Call) (PoolOperation Call) PoolOperation.Reply
      PythonException Unit}
    (reached : (start clients calls).run environment events = some last)
    (spared : Pool.EveryStep environment Spares (start clients calls) events) :
    last.state.Serialized := by
  have restricted : (start clients calls).run (environment.restrict Spares) events = some last :=
    spared.restrict_run.trans reached
  have kept : Orderly last.state := by
    apply ((start_waits clients calls).run _ nofun _ nofun initial_orderly restricted).2
    · intro task other different before after moved
      exact guarantee_relied different moved
    · intro task before after moved orderly
      cases task with
      | call call => exact moved.orderly orderly
      | cleanup key => exact moved.orderly orderly
  exact kept.serialized

/-! ## Two calls -/

/-- The first of two calls reads its status, up to the beginning of its clean-up. -/
def firstReads : List (PoolEvent (PoolTask Bool) Empty PoolChoice) :=
  [.resume (.call false) .completed, .resume (.call false) .completed,
    .resume (.call false) .completed, .resume (.call false) (.connected true),
    .resume (.call false) (.connected true), .resume (.call false) .completed,
    .resume (.call false) .completed, .resume (.call false) .completed,
    .resume (.cleanup ⟨false, 0⟩) .completed, .resume (.cleanup ⟨false, 0⟩) .completed]

/-- The first call is cancelled twice while its clean-up is inside `stop_notify`. -/
def cancelledInStopNotify : List (PoolEvent (PoolTask Bool) Empty PoolChoice) :=
  firstReads ++ [.resume (.call false) .cancelled, .resume (.cleanup ⟨false, 0⟩) .cancelled,
    .resume (.cleanup ⟨false, 0⟩) .completed, .resume (.call false) .completed,
    .resume (.call true) .completed, .resume (.call true) .completed]

/-- The first call is cancelled twice while its clean-up is inside `disconnect`. -/
def cancelledInDisconnect : List (PoolEvent (PoolTask Bool) Empty PoolChoice) :=
  firstReads ++ [.resume (.cleanup ⟨false, 0⟩) .completed, .resume (.call false) .cancelled,
    .resume (.cleanup ⟨false, 0⟩) .cancelled, .resume (.call false) .completed,
    .resume (.call true) .completed, .resume (.call true) .completed]

theorem sessions_serialized_cancelledInStopNotify :
    ∃ last, (start (fun _ : Bool => sampleClient) fun _ => .readStatus).run environment
        cancelledInStopNotify = some last ∧
      (last.state.sessions ⟨false, 0⟩).client = .disconnected ∧
      (last.state.sessions ⟨true, 0⟩).client = .obtaining ∧ last.state.Serialized := by
  refine ⟨_, rfl, rfl, rfl, ?_⟩
  exact @sessions_serialized Bool _ (fun _ => sampleClient) (fun _ => .readStatus)
    cancelledInStopNotify _ rfl (by decide +kernel)

/-- The second cancellation is passed on to the clean-up. It aborts `disconnect`, the
lock is released, and the other call obtains its client. -/
theorem sessions_overlap_cancelledInDisconnect :
    ∃ last, (start (fun _ : Bool => sampleClient) fun _ => .readStatus).run environment
        cancelledInDisconnect = some last ∧
      (last.state.sessions ⟨false, 0⟩).client = .disconnecting ∧
      (last.state.sessions ⟨true, 0⟩).client = .obtaining ∧
      last.state.holder = some ⟨true, 0⟩ ∧ ¬ last.state.Serialized := by
  refine ⟨_, rfl, rfl, rfl, rfl, ?_⟩
  intro serialized
  cases serialized.alone ⟨true, 0⟩ ⟨false, 0⟩ rfl rfl

end CallPool

end SmartblindsBle
