import Mathlib.Data.Fintype.Card
import SmartblindsBle.Foundation.BoundedRuns
import SmartblindsBle.Tilt.Transcript
import SmartblindsBle.Tilt.CallPool

/-! # Progress of the calls

Whatever fails and whatever is cancelled, at most one call is within its session,
and the lock is held exactly while one is. No state of the event loop is a
deadlock, and no run goes on for ever, so every call comes to its end.
-/

namespace SmartblindsBle

open Foundation

namespace PoolOperation

variable {Call : Type}

/-- The operations of a call between the acquisition of the lock and its release. -/
def inSession : PoolOperation Call → Bool
  | .begin | .acquireBleLock _ | .sleep _ => false
  | _ => true

/-- The operations that only another task can end. -/
def waitsForOthers : PoolOperation Call → Bool
  | .acquireBleLock _ | .shieldCleanup _ | .awaitCleanup _ => true
  | _ => false

end PoolOperation

namespace CallPool

variable {Call : Type}

/-- The lock is held for a session of the call. -/
def HoldsLock (call : Call) (pool : CallPool Call) : Prop :=
  ∃ attempt, pool.holder = some ⟨call, attempt⟩

theorem holdsLock_of_held {key : SessionKey Call} {pool : CallPool Call}
    (held : pool.holder = some key) : HoldsLock key.call pool :=
  ⟨key.attempt, held⟩

theorem HoldsLock.same {call other : Call} {pool : CallPool Call} (first : HoldsLock call pool)
    (second : HoldsLock other pool) : call = other := by
  rcases first with ⟨_, held⟩
  rcases second with ⟨_, alsoHeld⟩
  exact congrArg SessionKey.call (Option.some.inj (held.symm.trans alsoHeld))

/-! ## What the tasks guarantee and rely on -/

/-- Neither the lock nor the progress of a clean-up has changed. -/
structure SameProgress (before after : CallPool Call) : Prop where
  holder : after.holder = before.holder
  cleanup : ∀ key, (after.sessions key).cleanup = (before.sessions key).cleanup

theorem SameProgress.refl (pool : CallPool Call) : SameProgress pool pool :=
  ⟨rfl, fun _ => rfl⟩

/-- The clean-up has not changed, or it is now created. -/
def CreatedAtMost (key : SessionKey Call) (before after : CallPool Call) : Prop :=
  (after.sessions key).cleanup = (before.sessions key).cleanup ∨
    key.attempt < 2 ∧ (before.sessions key).cleanup = .uncreated ∧
      (after.sessions key).cleanup = .created

theorem CreatedAtMost.trans {key : SessionKey Call} {first middle last : CallPool Call}
    (earlier : CreatedAtMost key first middle) (later : CreatedAtMost key middle last) :
    CreatedAtMost key first last := by
  rcases earlier with same | ⟨few, uncreated, created⟩
  · rcases later with sameLater | ⟨few, uncreated, created⟩
    · exact .inl (sameLater.trans same)
    · exact .inr ⟨few, same.symm.trans uncreated, created⟩
  · rcases later with sameLater | ⟨_, uncreatedLater, _⟩
    · exact .inr ⟨few, uncreated, sameLater.trans created⟩
    · cases created.symm.trans uncreatedLater

theorem CreatedAtMost.proceeds {key : SessionKey Call} {before after : CallPool Call}
    (atMost : CreatedAtMost key before after)
    (created : (before.sessions key).cleanup ≠ .uncreated) :
    (after.sessions key).cleanup = (before.sessions key).cleanup := by
  rcases atMost with same | ⟨_, uncreated, _⟩
  · exact same
  · exact absurd uncreated created

/-- What the task of a call does: it takes and gives up its own lock, and creates its own
clean-ups. -/
structure CallAdvances (call : Call) (before after : CallPool Call) : Prop where
  holder : ∀ key, key.call ≠ call → (after.holder = some key ↔ before.holder = some key)
  cleanup : ∀ key, CreatedAtMost key before after
  others : ∀ key, key.call ≠ call →
    (after.sessions key).cleanup = (before.sessions key).cleanup

/-- What the task of a clean-up does. -/
structure CleanupAdvances (key : SessionKey Call) (before after : CallPool Call) : Prop where
  holder : after.holder = before.holder
  uncreated : (after.sessions key).cleanup = .uncreated ↔ (before.sessions key).cleanup = .uncreated
  others : ∀ other, other ≠ key →
    (after.sessions other).cleanup = (before.sessions other).cleanup

/-- What the task of a call relies on. -/
structure CallExpects (call : Call) (before after : CallPool Call) : Prop where
  holder : ∀ key, key.call = call → (after.holder = some key ↔ before.holder = some key)
  uncreated : ∀ key, key.call = call → ((after.sessions key).cleanup = .uncreated ↔
    (before.sessions key).cleanup = .uncreated)

theorem CallExpects.holdsLock {call : Call} {before after : CallPool Call}
    (expects : CallExpects call before after) : HoldsLock call after ↔ HoldsLock call before :=
  exists_congr fun attempt => expects.holder ⟨call, attempt⟩ rfl

theorem SameProgress.callAdvances {before after : CallPool Call}
    (same : SameProgress before after) (call : Call) : CallAdvances call before after := by
  refine ⟨?_, fun key => .inl (same.cleanup key), fun key _ => same.cleanup key⟩
  intro key _
  rw [same.holder]

theorem SameProgress.cleanupAdvances {before after : CallPool Call}
    (same : SameProgress before after) (key : SessionKey Call) :
    CleanupAdvances key before after := by
  refine ⟨same.holder, ?_, fun other _ => same.cleanup other⟩
  rw [same.cleanup]

theorem SameProgress.callExpects {before after : CallPool Call}
    (same : SameProgress before after) (call : Call) : CallExpects call before after := by
  constructor
  · intro key _
    rw [same.holder]
  · intro key _
    rw [same.cleanup]

/-- Where the task of a call may stand. -/
structure CallStands (call : Call) (operation : PoolOperation Call) (pool : CallPool Call) :
    Prop where
  locked : operation.inSession = true ↔ HoldsLock call pool
  cleaning : ∀ key, operation = .shieldCleanup key ∨ operation = .awaitCleanup key →
    (pool.sessions key).cleanup ≠ .uncreated

/-- Where the task of a clean-up may stand. -/
structure CleanupStands (key : SessionKey Call) (operation : PoolOperation Call)
    (pool : CallPool Call) : Prop where
  alone : operation.waitsForOthers = false
  begins : operation = .begin →
    (pool.sessions key).cleanup = .uncreated ∨ (pool.sessions key).cleanup = .created
  begun : operation ≠ .begin → (pool.sessions key).cleanup ≠ .uncreated
  tried : (pool.sessions key).cleanup ≠ .uncreated → key.attempt < 2

def callOutline (call : Call) : Outline (CallPool Call) (PoolOperation Call) where
  rely := {
    Allows := CallExpects call
    refl := fun pool => (SameProgress.refl pool).callExpects call
    trans := by
      intro first middle last earlier later
      constructor
      · exact fun key own => (later.holder key own).trans (earlier.holder key own)
      · exact fun key own => (later.uncreated key own).trans (earlier.uncreated key own) }
  guarantee := {
    Allows := CallAdvances call
    refl := fun pool => (SameProgress.refl pool).callAdvances call
    trans := by
      intro first middle last earlier later
      constructor
      · exact fun key other => (later.holder key other).trans (earlier.holder key other)
      · exact fun key => (earlier.cleanup key).trans (later.cleanup key)
      · exact fun key other => (later.others key other).trans (earlier.others key other) }
  during := CallStands call
  ended pool := ¬ HoldsLock call pool
  endedStable before after expects free holds := free (expects.holdsLock.mp holds)

def cleanupOutline (key : SessionKey Call) : Outline (CallPool Call) (PoolOperation Call) where
  rely := {
    Allows := CreatedAtMost key
    refl := fun _ => .inl rfl
    trans := CreatedAtMost.trans }
  guarantee := {
    Allows := CleanupAdvances key
    refl := fun pool => (SameProgress.refl pool).cleanupAdvances key
    trans := by
      intro first middle last earlier later
      constructor
      · exact later.holder.trans earlier.holder
      · exact later.uncreated.trans earlier.uncreated
      · exact fun other different =>
          (later.others other different).trans (earlier.others other different) }
  during := CleanupStands key
  ended pool := key.attempt < 2 ∧ ∃ outcome, (pool.sessions key).cleanup = .ended outcome
  endedStable := by
    rintro before after atMost ⟨few, outcome, ended⟩
    refine ⟨few, outcome, ?_⟩
    rw [atMost.proceeds (by rw [ended]; exact nofun)]
    exact ended

def outline : PoolTask Call → Outline (CallPool Call) (PoolOperation Call)
  | .call call => callOutline call
  | .cleanup key => cleanupOutline key

variable [DecidableEq Call]

/-- Each task may rely on what the others guarantee. -/
theorem guaranteed_expected {task other : PoolTask Call} (different : other ≠ task)
    {before after : CallPool Call} (moved : (outline other).guarantee.Allows before after) :
    (outline task).rely.Allows before after := by
  cases task with
  | call call =>
      cases other with
      | call mover =>
          have apart (key : SessionKey Call) (own : key.call = call) : key.call ≠ mover := by
            intro same
            exact different (congrArg PoolTask.call (same.symm.trans own))
          constructor
          · intro key own
            exact moved.holder key (apart key own)
          · intro key own
            rw [moved.others key (apart key own)]
      | cleanup cleaned =>
          constructor
          · intro key _
            rw [moved.holder]
          · intro key _
            by_cases same : key = cleaned
            · rw [same]
              exact moved.uncreated
            · rw [moved.others key same]
  | cleanup key =>
      cases other with
      | call mover => exact moved.cleanup key
      | cleanup cleaned =>
          have apart : key ≠ cleaned := fun same => different (congrArg PoolTask.cleanup same.symm)
          exact .inl (moved.others key apart)

/-! ## Moves that change no progress -/

theorem modifySession_same {key : SessionKey Call} {transform : SessionState → SessionState}
    (keeps : ∀ session, (transform session).cleanup = session.cleanup) (pool : CallPool Call) :
    SameProgress pool (pool.modifySession key transform) := by
  refine ⟨rfl, ?_⟩
  intro other
  by_cases same : other = key
  · rw [same, modifySession_self]
    exact keeps _
  · rw [modifySession_other same]

theorem setClient_same (key : SessionKey Call) (client : ClientPhase) (pool : CallPool Call) :
    SameProgress pool (pool.setClient key client) := by
  apply modifySession_same
  exact fun _ => rfl

theorem setReawaited_same (key : SessionKey Call) (pool : CallPool Call) :
    SameProgress pool (pool.setReawaited key) := by
  apply modifySession_same
  exact fun _ => rfl

theorem enter_same (operation : PoolOperation Call) (pool : CallPool Call) :
    SameProgress pool (enter operation pool) := by
  cases operation with
  | clientFactory key => exact setClient_same key .obtaining pool
  | disconnect key => exact setClient_same key .disconnecting pool
  | awaitCleanup key => exact setReawaited_same key pool
  | _ => exact SameProgress.refl pool

/-- Only the acquisition of the lock and the beginning of a clean-up are progress. -/
theorem answer_same {task : PoolTask Call} {operation : PoolOperation Call}
    (begins : operation = .begin → ∃ call, task = .call call)
    (acquires : ∀ key, operation ≠ .acquireBleLock key) {choice : PoolChoice}
    {reply : Raises operation.Reply} {pool after : CallPool Call}
    (answered : answer task operation choice pool = some (reply, after)) :
    SameProgress pool after := by
  by_cases plain : isPlain operation = true
  · rw [answer_plain plain answered]
    exact SameProgress.refl pool
  cases operation with
  | begin =>
      rcases begins rfl with ⟨call, rfl⟩
      cases choice with
      | completed =>
          cases answered
          exact SameProgress.refl pool
      | cancelled =>
          cases (answer_cancelled answered).2
          exact SameProgress.refl pool
      | failed error => cases answered
      | connected connected => cases answered
  | acquireBleLock key => exact absurd rfl (acquires key)
  | clientFactory key =>
      cases choice with
      | completed =>
          cases answered
          exact setClient_same key _ pool
      | cancelled =>
          cases (answer_cancelled answered).2
          exact setClient_same key _ pool
      | failed error =>
          cases answered
          exact setClient_same key _ pool
      | connected connected => cases answered
  | disconnect key =>
      cases choice with
      | completed =>
          cases answered
          exact setClient_same key _ pool
      | cancelled =>
          cases (answer_cancelled answered).2
          exact SameProgress.refl pool
      | failed error =>
          cases answered
          exact setClient_same key _ pool
      | connected connected => cases answered
  | awaitCleanup key =>
      cases choice with
      | completed =>
          rw [(awaitEnded_eq_some answered).2]
          exact SameProgress.refl pool
      | cancelled =>
          cases (answer_cancelled answered).2
          exact SameProgress.refl pool
      | failed error => cases answered
      | connected connected => cases answered
  | _ => exact absurd rfl plain

/-- A change of the shared state that is no progress. -/
def Quiet (transform : CallPool Call → CallPool Call) : Prop :=
  ∀ pool, SameProgress pool (transform pool)

/-! ## The parts of a task -/

section Parts

variable {Result : Type} {operations : PoolOperation Call → Prop} {key : SessionKey Call}

/-- A part of a task that makes no progress by itself. -/
abbrev Within (operations : PoolOperation Call → Prop) (code : PoolAsync Call Result)
    (steps : Nat) : Prop :=
  code.Confined operations Quiet steps

omit [DecidableEq Call] in
theorem within_await {operation : PoolOperation Call} (allowed : operations operation) :
    Within operations (await operation) 1 :=
  Coroutine.Confined.perform allowed

theorem within_modify {transform : SessionState → SessionState}
    (keeps : ∀ session, (transform session).cleanup = session.cleanup) :
    Within operations (Coroutine.modify (modifySession key transform)) 0 :=
  Coroutine.Confined.modify (modifySession_same keeps)

omit [DecidableEq Call] in
theorem Within.longer {code : PoolAsync Call Result} {steps more : Nat}
    (within : Within operations code steps) (fits : steps ≤ more) : Within operations code more :=
  within.mono (fun _ => id) (fun _ => id) fits

omit [DecidableEq Call] in
theorem Within.swallowing {code : PoolAsync Call Unit} {steps : Nat}
    (within : Within operations code steps) (swallowed : PythonException → Prop)
    [DecidablePred swallowed] :
    Within operations (tryCatch code fun error =>
      if swallowed error then pure () else throw error) steps := by
  have handles (error : PythonException) : Within operations
      (if swallowed error then pure () else throw error : PoolAsync Call Unit) 0 := by
    split
    · trivial
    · trivial
  exact Coroutine.Confined.tryCatch within handles

theorem hasSession_within : Within operations (sessionPrimitives key).hasSession 0 :=
  fun _ => trivial

/-- What a clean-up awaits after its first step. -/
def CleanupOperation (operation : PoolOperation Call) : Prop :=
  operation ≠ .begin ∧ operation.waitsForOthers = false

theorem stop_within : Within CleanupOperation (sessionPrimitives key).stop 2 := by
  have detaches : Within CleanupOperation (Coroutine.modify (modifySession key fun session =>
      { session with hasWorker := false })) 0 := within_modify fun _ => rfl
  have takesWorker : Within CleanupOperation (sessionPrimitives key).takeWorker 0 :=
    fun _ => detaches.bind 0 fun _ => trivial
  have stopsNotify : Within CleanupOperation (tryCatch (await .stopNotify) fun error =>
      if error.isOrdinary then pure () else throw error : PoolAsync Call Unit) 1 :=
    (within_await ⟨nofun, rfl⟩).swallowing fun error => error.isOrdinary = true
  have awaitsWorker : Within CleanupOperation (tryCatch (await .awaitWorker) fun error =>
      if error = .cancelledError then pure () else throw error : PoolAsync Call Unit) 1 :=
    (within_await ⟨nofun, rfl⟩).swallowing fun error => error = .cancelledError
  have stops (worker : Bool) : Within CleanupOperation (do
      if worker then
        tryCatch (await .awaitWorker) (fun error =>
          if error = .cancelledError then pure () else throw error)
      tryCatch (await .stopNotify) (fun error =>
        if error.isOrdinary then pure () else throw error) : PoolAsync Call Unit) 2 := by
    cases worker with
    | false => exact stopsNotify.longer (by omega)
    | true => exact awaitsWorker.bind 1 fun _ => stopsNotify
  exact takesWorker.bind 2 stops

theorem closeBleClient_within (session : Bool) :
    Within CleanupOperation ((sessionPrimitives key).closeBleClient session) 5 := by
  have isConnected : Within CleanupOperation (sessionPrimitives key).isConnected 1 :=
    within_await ⟨nofun, rfl⟩
  have disconnect : Within CleanupOperation (sessionPrimitives key).disconnect 1 :=
    within_await ⟨nofun, rfl⟩
  have checks (message : String) : Within CleanupOperation (do
      let connected ← (sessionPrimitives key).isConnected
      if connected then throw (.tiltBleCleanupError message) : PoolAsync Call Unit) 1 := by
    have ends (connected : Bool) : Within CleanupOperation (if connected then
        throw (.tiltBleCleanupError message) else pure () : PoolAsync Call Unit) 0 := by
      cases connected with
      | true => trivial
      | false => trivial
    exact isConnected.bind 0 ends
  have stops : Within CleanupOperation
      (if session then (sessionPrimitives key).stop else pure ()) 2 := by
    cases session with
    | true => exact stop_within
    | false => trivial
  have disconnects : Within CleanupOperation
      (tryCatch (sessionPrimitives key).disconnect fun error =>
        if error.isOrdinary then do
          let connected ← (sessionPrimitives key).isConnected
          if connected then throw (.tiltBleCleanupError "Tilt BLE client disconnect failed.")
        else throw error) 2 := by
    have handles (error : PythonException) : Within CleanupOperation
        (if error.isOrdinary then do
          let connected ← (sessionPrimitives key).isConnected
          if connected then throw (.tiltBleCleanupError "Tilt BLE client disconnect failed.")
        else throw error) 1 := by
      split
      · exact checks _
      · trivial
    exact disconnect.tryCatch handles
  exact (stops.tryFinally disconnects).bind 1 fun _ => checks _

/-- What the task of a call awaits in the body of a session. -/
def BodyOperation (operation : PoolOperation Call) : Prop :=
  operation.inSession = true ∧ operation.waitsForOthers = false

theorem sessionBody_within (shadeId : String) :
    Within BodyOperation ((sessionPrimitives key).sessionBody shadeId (await .runOperation)) 6 := by
  have isConnected : Within BodyOperation (sessionPrimitives key).isConnected 1 :=
    within_await ⟨rfl, rfl⟩
  have connect : Within BodyOperation (sessionPrimitives key).connect 1 :=
    within_await ⟨rfl, rfl⟩
  have startNotify : Within BodyOperation (sessionPrimitives key).startNotify 1 :=
    within_await ⟨rfl, rfl⟩
  have startWorker : Within BodyOperation (sessionPrimitives key).startWorker 0 :=
    within_modify fun _ => rfl
  have authenticate : Within BodyOperation (sessionPrimitives key).authenticate 1 :=
    within_await ⟨rfl, rfl⟩
  have runOperation : Within BodyOperation (await .runOperation : PoolAsync Call Unit) 1 :=
    within_await ⟨rfl, rfl⟩
  have createSession : Within BodyOperation (sessionPrimitives key).createSession 0 :=
    within_modify fun _ => rfl
  have operates : Within BodyOperation (do
      (sessionPrimitives key).createSession
      (sessionPrimitives key).start
      (sessionPrimitives key).authenticate
      await .runOperation : PoolAsync Call Unit) 3 :=
    createSession.bind 3 fun _ => (startNotify.bind 0 fun _ => startWorker).bind 2 fun _ =>
      authenticate.bind 1 fun _ => runOperation
  have checks : Within BodyOperation (do
      let connected ← (sessionPrimitives key).isConnected
      if connected = false then
        throw (.tiltBleError ("Unable to connect to configured shade " ++ shadeId ++ "."))
      (sessionPrimitives key).createSession
      (sessionPrimitives key).start
      (sessionPrimitives key).authenticate
      await .runOperation : PoolAsync Call Unit) 4 := by
    refine isConnected.bind 3 ?_
    intro connected
    cases connected with
    | true => exact operates
    | false => trivial
  refine isConnected.bind 5 ?_
  intro connected
  cases connected with
  | true => exact checks.longer (by omega)
  | false => exact connect.bind 4 fun _ => checks

/-- The waits for a clean-up. -/
def waitsFor (key : SessionKey Call) (operation : PoolOperation Call) : Prop :=
  operation = .shieldCleanup key ∨ operation = .awaitCleanup key

omit [DecidableEq Call] in
theorem waits_within : Within (waitsFor key)
    (tryCatch (await (.shieldCleanup key)) fun error =>
      if error = .cancelledError then do
        tryCatch (await (.awaitCleanup key)) (fun error =>
          if error.isOrdinary then pure () else throw error)
        throw error
      else throw error) 2 := by
  have again : Within (waitsFor key) (tryCatch (await (.awaitCleanup key)) fun error =>
      if error.isOrdinary then pure () else throw error : PoolAsync Call Unit) 1 :=
    (within_await (.inr rfl)).swallowing fun error => error.isOrdinary = true
  have handles (error : PythonException) : Within (waitsFor key)
      (if error = .cancelledError then do
        tryCatch (await (.awaitCleanup key)) (fun error =>
          if error.isOrdinary then pure () else throw error)
        throw error
      else throw error : PoolAsync Call Unit) 1 := by
    split
    · exact again.bind 0 fun _ => trivial
    · trivial
  have shields : Within (waitsFor key) (await (.shieldCleanup key)) 1 := within_await (.inl rfl)
  exact shields.tryCatch handles

end Parts

/-! ## Where the tasks stand -/

omit [DecidableEq Call] in
theorem SameProgress.guaranteed {before after : CallPool Call} (same : SameProgress before after)
    (task : PoolTask Call) : (outline task).guarantee.Allows before after := by
  cases task with
  | call call => exact same.callAdvances call
  | cleanup key => exact same.cleanupAdvances key

omit [DecidableEq Call] in
theorem SameProgress.expected {before after : CallPool Call} (same : SameProgress before after)
    (task : PoolTask Call) : (outline task).rely.Allows before after := by
  cases task with
  | call call => exact same.callExpects call
  | cleanup key => exact .inl (same.cleanup key)

/-- A triple of the outline of a task. -/
abbrev TaskMeets {Result : Type} (task : PoolTask Call) (pre : CallPool Call → Prop)
    (code : PoolAsync Call Result) (post : Raises Result → CallPool Call → Prop) : Prop :=
  code.Meets (environment.view task) (outline task) pre post

/-- The others do not leave the stage. -/
def Lasts (task : PoolTask Call) (stage : CallPool Call → Prop) : Prop :=
  ∀ pool later, stage pool → (outline task).rely.Allows pool later → stage later

theorem await_meets {task : PoolTask Call} {operation : PoolOperation Call}
    {stage : CallPool Call → Prop} (begins : operation = .begin → ∃ call, task = .call call)
    (acquires : ∀ key, operation ≠ .acquireBleLock key) (lasts : Lasts task stage)
    (stands : ∀ pool, stage pool → (outline task).during operation pool) :
    TaskMeets task stage (await operation) fun _ => stage := by
  refine Coroutine.Meets.perform ?_ lasts stands ?_
  · intro pool holds
    have same := enter_same operation pool
    exact ⟨same.guaranteed task, lasts pool _ holds (same.expected task)⟩
  · intro later choice reply after holds answered
    have same := answer_same begins acquires answered
    exact ⟨same.guaranteed task, lasts later after holds (same.expected task)⟩

theorem Within.meets {Result : Type} {operations : PoolOperation Call → Prop} {steps : Nat}
    {code : PoolAsync Call Result} (within : Within operations code steps) {task : PoolTask Call}
    {stage : CallPool Call → Prop}
    (begins : ∀ operation, operations operation → operation ≠ .begin)
    (acquires : ∀ operation, operations operation → ∀ key, operation ≠ .acquireBleLock key)
    (lasts : Lasts task stage)
    (stands : ∀ operation, operations operation → ∀ pool, stage pool →
      (outline task).during operation pool) :
    TaskMeets task stage code fun _ => stage := by
  apply Coroutine.Confined.meets within
  · intro transform quiet pool holds
    exact ⟨(quiet pool).guaranteed task, lasts pool _ holds ((quiet pool).expected task)⟩
  · intro operation allowed
    apply await_meets _ (acquires operation allowed) lasts (stands operation allowed)
    intro isBegin
    exact absurd isBegin (begins operation allowed)

/-! ## A clean-up -/

section Cleanup

variable {key : SessionKey Call}

/-- The clean-up has been created, and has not ended. -/
def Active (key : SessionKey Call) (pool : CallPool Call) : Prop :=
  key.attempt < 2 ∧
    ((pool.sessions key).cleanup = .created ∨ (pool.sessions key).cleanup = .begun)

omit [DecidableEq Call] in
theorem Active.created {pool : CallPool Call} (active : Active key pool) :
    (pool.sessions key).cleanup ≠ .uncreated := by
  intro uncreated
  rcases active.2 with created | begun
  · cases uncreated.symm.trans created
  · cases uncreated.symm.trans begun

omit [DecidableEq Call] in
theorem active_lasts : Lasts (.cleanup key) (Active key) := by
  intro pool later active atMost
  refine ⟨active.1, ?_⟩
  rw [CreatedAtMost.proceeds atMost active.created]
  exact active.2

theorem Active.setCleanup {pool : CallPool Call} (active : Active key pool)
    {cleanup : CleanupPhase} (created : cleanup ≠ .uncreated) :
    CleanupAdvances key pool (pool.setCleanup key cleanup) := by
  refine ⟨rfl, ?_, ?_⟩
  · rw [setCleanup_cleanup]
    exact ⟨fun same => absurd same created, fun same => absurd same active.created⟩
  · intro other different
    rw [CallPool.setCleanup, modifySession_other different]

theorem begin_meets : TaskMeets (.cleanup key)
    (fun pool => (pool.sessions key).cleanup = .uncreated) (await .begin)
    fun _ => Active key := by
  have lasts : Lasts (.cleanup key) fun pool => (pool.sessions key).cleanup = .uncreated ∨
      key.attempt < 2 ∧ (pool.sessions key).cleanup = .created := by
    intro pool later stands atMost
    rcases stands with uncreated | ⟨few, created⟩
    · rcases atMost with same | ⟨few, _, created⟩
      · exact .inl (same.trans uncreated)
      · exact .inr ⟨few, created⟩
    · refine .inr ⟨few, ?_⟩
      rw [CreatedAtMost.proceeds atMost (by rw [created]; exact nofun)]
      exact created
  refine Coroutine.Meets.perform ?_ lasts ?_ ?_
  · intro pool uncreated
    exact ⟨(SameProgress.refl pool).cleanupAdvances key, .inl uncreated⟩
  · intro pool stands
    constructor
    · rfl
    · exact fun _ => stands.imp_right And.right
    · exact fun other => absurd rfl other
    · rcases stands with uncreated | ⟨few, _⟩
      · exact fun created => absurd uncreated created
      · exact fun _ => few
  · intro later choice reply after stands answered
    have active (created : (later.sessions key).cleanup = .created) : Active key later := by
      rcases stands with uncreated | ⟨few, _⟩
      · cases uncreated.symm.trans created
      · exact ⟨few, .inl created⟩
    cases choice with
    | completed =>
        rcases Option.ite_none_right_eq_some.mp answered with ⟨created, begins⟩
        cases begins
        refine ⟨(active created).setCleanup nofun, (active created).1, .inr ?_⟩
        exact setCleanup_cleanup key .begun later
    | cancelled =>
        rcases answer_cancelled answered with ⟨cancellable, interrupted⟩
        cases interrupted
        exact ⟨(SameProgress.refl _).cleanupAdvances key, active cancellable.2⟩
    | failed error => cases answered
    | connected connected => cases answered

theorem closeBleClient_meets (session : Bool) : TaskMeets (.cleanup key) (Active key)
    ((sessionPrimitives key).closeBleClient session) fun _ => Active key := by
  apply (closeBleClient_within session).meets
  · exact fun _ allowed => allowed.1
  · rintro _ allowed other rfl
    cases allowed.2
  · exact active_lasts
  · intro operation allowed pool active
    exact ⟨allowed.2, fun isBegin => absurd isBegin allowed.1, fun _ => active.created,
      fun _ => active.1⟩

/-- A clean-up that has been created comes to its end. -/
theorem cleanupTask_meets : TaskMeets (.cleanup key)
    (fun pool => (pool.sessions key).cleanup = .uncreated) (cleanupTask key)
    fun _ => (outline (.cleanup key)).ended := by
  have closes : TaskMeets (.cleanup key) (Active key)
      (do
        let session ← (sessionPrimitives key).hasSession
        (sessionPrimitives key).closeBleClient session
        pure (.ok ()) : PoolAsync Call (Raises Unit)) fun _ => Active key := by
    have reads : TaskMeets (.cleanup key) (Active key) (sessionPrimitives key).hasSession
        fun _ => Active key := fun _ active => active
    apply reads.bind
    · intro session
      apply (closeBleClient_meets session).bind
      · exact fun _ _ active => active
      · exact fun _ _ active => active
    · exact fun _ _ active => active
  have runs : TaskMeets (.cleanup key) (fun pool => (pool.sessions key).cleanup = .uncreated)
      (do
        await .begin
        let session ← (sessionPrimitives key).hasSession
        (sessionPrimitives key).closeBleClient session
        pure (.ok ()) : PoolAsync Call (Raises Unit)) fun _ => Active key := by
    apply begin_meets.bind
    · exact fun _ => closes
    · exact fun _ _ active => active
  have attempts : TaskMeets (.cleanup key)
      (fun pool => (pool.sessions key).cleanup = .uncreated)
      (tryCatch
        (do
          await .begin
          let session ← (sessionPrimitives key).hasSession
          (sessionPrimitives key).closeBleClient session
          pure (.ok ()) : PoolAsync Call (Raises Unit))
        fun error => pure (.error error)) fun caught pool =>
          (∃ outcome, caught = .ok outcome) ∧ Active key pool := by
    apply runs.tryCatch
    · exact fun outcome _ active => ⟨⟨outcome, rfl⟩, active⟩
    · exact fun error _ active => ⟨⟨.error error, rfl⟩, active⟩
  apply attempts.bind
  · intro outcome
    apply Coroutine.Meets.modify
    intro pool holds
    exact ⟨holds.2.setCleanup nofun, holds.2.1, outcome, setCleanup_cleanup key _ pool⟩
  · rintro error pool ⟨⟨outcome, impossible⟩, _⟩
    cases impossible

end Cleanup

/-! ## A call -/

/-- The clean-ups of the call's sessions from this number on have not been created. -/
def Unused (call : Call) (attempt : Nat) (pool : CallPool Call) : Prop :=
  ∀ key, key.call = call → attempt ≤ key.attempt → (pool.sessions key).cleanup = .uncreated

/-- The call does not hold the lock. -/
structure Outside (call : Call) (attempt : Nat) (pool : CallPool Call) : Prop where
  free : ¬ HoldsLock call pool
  unused : Unused call attempt pool

/-- The call holds the lock for its session. -/
structure Inside (key : SessionKey Call) (attempt : Nat) (pool : CallPool Call) : Prop where
  held : pool.holder = some key
  unused : Unused key.call attempt pool

section Calls

variable {key : SessionKey Call} {attempt : Nat}

omit [DecidableEq Call] in
theorem Unused.relied {call : Call} {pool later : CallPool Call} (unused : Unused call attempt pool)
    (expects : CallExpects call pool later) : Unused call attempt later :=
  fun key own more => (expects.uncreated key own).mpr (unused key own more)

omit [DecidableEq Call] in
theorem Unused.next {call : Call} {pool : CallPool Call} (unused : Unused call attempt pool) :
    Unused call (attempt + 1) pool :=
  fun key own more => unused key own (Nat.le_of_succ_le more)

omit [DecidableEq Call] in
theorem outside_lasts (call : Call) : Lasts (.call call) (Outside call attempt) := by
  intro pool later outside expects
  exact ⟨fun holds => outside.free (CallExpects.holdsLock expects |>.mp holds),
    outside.unused.relied expects⟩

omit [DecidableEq Call] in
theorem inside_lasts : Lasts (.call key.call) (Inside key attempt) := by
  intro pool later inside expects
  exact ⟨(expects.holder key rfl).mpr inside.held, inside.unused.relied expects⟩

/-- The call awaits its clean-up. -/
def AwaitsCleanup (key : SessionKey Call) (pool : CallPool Call) : Prop :=
  Inside key (key.attempt + 1) pool ∧ (pool.sessions key).cleanup ≠ .uncreated

omit [DecidableEq Call] in
theorem awaitsCleanup_lasts : Lasts (.call key.call) (AwaitsCleanup key) := by
  intro pool later cleaning expects
  refine ⟨inside_lasts pool later cleaning.1 expects, ?_⟩
  intro uncreated
  exact cleaning.2 ((expects.uncreated key rfl).mp uncreated)

omit [DecidableEq Call] in
theorem Inside.stands {pool : CallPool Call} (inside : Inside key attempt pool)
    {operation : PoolOperation Call} (allowed : BodyOperation operation) :
    CallStands key.call operation pool := by
  constructor
  · exact ⟨fun _ => holdsLock_of_held inside.held, fun _ => allowed.1⟩
  · rintro cleaned (rfl | rfl)
    · cases allowed.2
    · cases allowed.2

/-- The lock is acquired, unless the wait for it is cancelled. -/
theorem acquireBleLock_meets : TaskMeets (.call key.call) (Outside key.call attempt)
    (await (.acquireBleLock key)) fun outcome pool => match outcome with
      | .ok _ => Inside key attempt pool
      | .error _ => Outside key.call attempt pool := by
  refine Coroutine.Meets.perform ?_ (@outside_lasts Call attempt key.call) ?_ ?_
  · intro pool outside
    exact ⟨(SameProgress.refl pool).callAdvances key.call, outside⟩
  · intro pool outside
    constructor
    · exact ⟨nofun, fun holds => absurd holds outside.free⟩
    · rintro cleaned (same | same)
      · cases same
      · cases same
  · intro later choice reply after outside answered
    cases choice with
    | completed =>
        simp only [environment, PoolEnvironment.view, answer, complete] at answered
        split at answered
        · next free =>
            cases answered
            refine ⟨⟨?_, fun _ => .inl rfl, fun _ _ => rfl⟩, rfl, outside.unused⟩
            intro other different
            rw [free]
            constructor
            · intro held
              exact absurd (congrArg SessionKey.call (Option.some.inj held)).symm different
            · intro held
              cases held
        · cases answered
    | cancelled =>
        have cancelled : answer (.call key.call) (.acquireBleLock key) .cancelled later =
            some (reply, after) := answered
        rcases answer_cancelled cancelled with ⟨_, interrupted⟩
        cases interrupted
        exact ⟨(SameProgress.refl _).callAdvances key.call, outside⟩
    | failed error => cases answered
    | connected connected => cases answered

theorem releaseBleLock_meets : TaskMeets (.call key.call) (Inside key attempt)
    (sessionPrimitives key).releaseBleLock fun _ => Outside key.call attempt := by
  apply Coroutine.Meets.modify
  intro pool inside
  refine ⟨⟨?_, fun _ => .inl rfl, fun _ _ => rfl⟩, ?_, inside.unused⟩
  · intro other different
    rw [inside.held]
    constructor
    · intro held
      cases held
    · intro held
      exact absurd (congrArg SessionKey.call (Option.some.inj held)).symm different
  · rintro ⟨_, held⟩
    cases held

/-- The clean-up is created, and awaited to its end unless the wait is cancelled. -/
theorem safeCleanup_meets (few : key.attempt < 2) : TaskMeets (.call key.call)
    (Inside key key.attempt) (awaitCancellationSafeCleanup key)
    fun _ => Inside key (key.attempt + 1) := by
  have creates : TaskMeets (.call key.call) (Inside key key.attempt)
      (Coroutine.modify (setCleanup key .created)) fun _ => AwaitsCleanup key := by
    apply Coroutine.Meets.modify
    intro pool inside
    have uncreated := inside.unused key rfl (Nat.le_refl _)
    have others {other : SessionKey Call} (different : other ≠ key) :
        ((pool.setCleanup key .created).sessions other).cleanup =
          (pool.sessions other).cleanup := by
      rw [CallPool.setCleanup, modifySession_other different]
    refine ⟨⟨fun _ _ => Iff.rfl, ?_, ?_⟩, ⟨inside.held, ?_⟩, ?_⟩
    · intro other
      by_cases same : other = key
      · rw [same]
        exact .inr ⟨few, uncreated, setCleanup_cleanup key .created pool⟩
      · exact .inl (others same)
    · exact fun other different => others fun same => different (congrArg SessionKey.call same)
    · intro other own more
      have different : other ≠ key := by
        rintro rfl
        exact Nat.not_succ_le_self _ more
      rw [others different]
      exact inside.unused.next other own more
    · rw [setCleanup_cleanup]
      exact nofun
  have waits : TaskMeets (.call key.call) (AwaitsCleanup key)
      (tryCatch (await (.shieldCleanup key)) fun error =>
        if error = .cancelledError then do
          tryCatch (await (.awaitCleanup key)) (fun error =>
            if error.isOrdinary then pure () else throw error)
          throw error
        else throw error) fun _ => AwaitsCleanup key := by
    apply waits_within.meets
    · rintro operation (rfl | rfl)
      · exact nofun
      · exact nofun
    · rintro operation (rfl | rfl)
      · exact fun _ => nofun
      · exact fun _ => nofun
    · exact awaitsCleanup_lasts
    · rintro operation (rfl | rfl) pool awaits
      · refine ⟨⟨fun _ => holdsLock_of_held awaits.1.held, fun _ => rfl⟩, ?_⟩
        rintro other (same | same)
        · cases same
          exact awaits.2
        · cases same
      · refine ⟨⟨fun _ => holdsLock_of_held awaits.1.held, fun _ => rfl⟩, ?_⟩
        rintro other (same | same)
        · cases same
        · cases same
          exact awaits.2
  apply creates.bind
  · exact fun _ => waits.weaken fun _ _ awaits => awaits.1
  · exact fun _ _ awaits => awaits.1

/-- `_run_session` ends outside of the session. -/
theorem runSession_meets (client : TiltShadeClient) (few : key.attempt < 2) :
    TaskMeets (.call key.call) (Outside key.call key.attempt) (runSession client key)
      fun _ => Outside key.call (key.attempt + 1) := by
  have stays {Result : Type} {code : PoolAsync Call Result} {steps : Nat}
      (within : Within BodyOperation code steps) : TaskMeets (.call key.call)
        (Inside key key.attempt) code fun _ => Inside key key.attempt := by
    apply within.meets
    · rintro _ allowed rfl
      cases allowed.1
    · rintro _ allowed _ rfl
      cases allowed.1
    · exact inside_lasts
    · exact fun _ allowed _ inside => inside.stands allowed
  have obtains : TaskMeets (.call key.call) (Inside key key.attempt)
      (sessionPrimitives key).clientFactory fun _ => Inside key key.attempt :=
    stays (within_await ⟨rfl, rfl⟩)
  have forgets : TaskMeets (.call key.call) (Inside key key.attempt)
      (sessionPrimitives key).forgetSession fun _ => Inside key key.attempt :=
    stays (within_modify fun _ => rfl)
  have cleans : TaskMeets (.call key.call) (Inside key key.attempt) (do
      let session ← (sessionPrimitives key).hasSession
      (sessionPrimitives key).awaitCancellationSafeCleanup
        ((sessionPrimitives key).closeBleClient session))
      fun _ => Inside key (key.attempt + 1) := by
    apply (stays hasSession_within).bind
    · exact fun _ => safeCleanup_meets few
    · exact fun _ _ inside => ⟨inside.held, inside.unused.next⟩
  have uses : TaskMeets (.call key.call) (Inside key key.attempt)
      (do
        (sessionPrimitives key).clientFactory
        (sessionPrimitives key).forgetSession
        tryFinally ((sessionPrimitives key).sessionBody client.shadeId (await .runOperation))
          (do
            let session ← (sessionPrimitives key).hasSession
            (sessionPrimitives key).awaitCancellationSafeCleanup
              ((sessionPrimitives key).closeBleClient session)))
      fun _ => Inside key (key.attempt + 1) := by
    apply obtains.bind
    · intro _
      apply forgets.bind
      · exact fun _ => (stays (sessionBody_within client.shadeId)).tryFinally cleans
      · exact fun _ _ inside => ⟨inside.held, inside.unused.next⟩
    · exact fun _ _ inside => ⟨inside.held, inside.unused.next⟩
  apply acquireBleLock_meets.bind
  · exact fun _ => uses.tryFinally releaseBleLock_meets
  · exact fun _ _ outside => ⟨outside.free, outside.unused.next⟩

theorem outside_meets {call : Call} {operation : PoolOperation Call}
    (outsideSession : operation.inSession = false)
    (acquires : ∀ key, operation ≠ .acquireBleLock key) :
    TaskMeets (.call call) (Outside call attempt) (await operation)
      fun _ => Outside call attempt := by
  apply await_meets (fun _ => ⟨call, rfl⟩) acquires (outside_lasts call)
  intro pool outside
  constructor
  · rw [outsideSession]
    exact ⟨nofun, fun holds => absurd holds outside.free⟩
  · rintro key (rfl | rfl)
    · cases outsideSession
    · cases outsideSession

/-- The task of a call ends without the lock. -/
theorem callTask_meets (client : TiltShadeClient) (call : Call) (clientCall : ClientCall) :
    TaskMeets (.call call) (Outside call 0) (callTask client call clientCall)
      fun _ => (outline (.call call)).ended := by
  have begins : TaskMeets (.call call) (Outside call 0) (await .begin) fun _ => Outside call 0 :=
    outside_meets rfl fun _ => nofun
  have sleeps : TaskMeets (.call call) (Outside call 1)
      (await (.sleep statusReadRetryDelaySeconds)) fun _ => Outside call 1 :=
    outside_meets rfl fun _ => nofun
  have first : TaskMeets (.call call) (Outside call 0) (runSession client ⟨call, 0⟩)
      fun _ => Outside call 1 := @runSession_meets Call _ ⟨call, 0⟩ client Nat.zero_lt_two
  have second : TaskMeets (.call call) (Outside call 1) (runSession client ⟨call, 1⟩)
      fun _ => Outside call 2 := @runSession_meets Call _ ⟨call, 1⟩ client Nat.one_lt_two
  cases clientCall with
  | readStatus =>
      apply begins.bind
      · intro _
        apply first.tryCatch
        · exact fun _ _ outside => outside.free
        · intro error
          split
          · apply sleeps.bind
            · exact fun _ => second.weaken fun _ _ outside => outside.free
            · exact fun _ _ outside => outside.free
          · exact fun _ outside => outside.free
      · exact fun _ _ outside => outside.free
  | setPositionAndReadStatus positionPercent settleSeconds =>
      apply begins.bind
      · intro _
        cases requested : client.requestedPosition positionPercent with
        | error error => exact fun _ outside => outside.free
        | ok percent => exact first.weaken fun _ _ outside => outside.free
      · exact fun _ _ outside => outside.free

end Calls

/-! ## Every run -/

section Runs

variable (clients : Call → TiltShadeClient) (calls : Call → ClientCall)

/-- The pools of calls, their clean-ups and what they share. -/
abbrev CallsPool (Call : Type) : Type :=
  Pool (PoolTask Call) (CallPool Call) (PoolOperation Call) PoolOperation.Reply
    PythonException Unit

theorem start_stands : Pool.AllStand environment outline (start clients calls) := by
  intro task
  cases task with
  | call call =>
      have outside : Outside call 0 initial := by
        refine ⟨?_, fun _ _ _ => rfl⟩
        rintro ⟨_, held⟩
        cases held
      have stands := (callTask_meets (clients call) call (calls call)).settle outside
      change Coroutine.Stands _ _ (callTask (clients call) call (calls call)) initial
      generalize calls call = clientCall at stands ⊢
      cases clientCall with
      | readStatus => exact stands
      | setPositionAndReadStatus positionPercent settleSeconds => exact stands
  | cleanup key =>
      have uncreated : ((initial : CallPool Call).sessions key).cleanup = .uncreated := rfl
      exact (@cleanupTask_meets Call _ key).settle uncreated

variable {clients calls} {events : List (PoolEvent (PoolTask Call) Empty PoolChoice)}
variable {last : CallsPool Call}

theorem reached_stands (reached : (start clients calls).run environment events = some last) :
    Pool.AllStand environment outline last :=
  (start_stands clients calls).run
    (fun _ _ different _ _ moved => guaranteed_expected different moved) (fun _ => nofun) reached

/-- The call stands between the acquisition of the lock and its release. -/
def InSession (pool : CallsPool Call) (call : Call) : Prop :=
  ∃ operation, (pool.codes (.call call)).suspendedOn? = some operation ∧
    operation.inSession = true

theorem inSession_iff_holdsLock (stand : Pool.AllStand environment outline last) (call : Call) :
    InSession last call ↔ HoldsLock call last.state := by
  rcases (stand (.call call)).position with
    ⟨outcome, isDone, ended⟩ | ⟨operation, suspended, stands⟩
  · constructor
    · rintro ⟨operation, suspended, _⟩
      rw [isDone] at suspended
      cases suspended
    · intro holds
      exact absurd holds ended
  · constructor
    · rintro ⟨other, alsoSuspended, inSession⟩
      cases Option.some.inj (suspended.symm.trans alsoSuspended)
      exact stands.locked.mp inSession
    · intro holds
      exact ⟨operation, suspended, stands.locked.mpr holds⟩

/-- Two calls begin, and the first acquires the lock. -/
def contended : List (PoolEvent (PoolTask Bool) Empty PoolChoice) :=
  [.resume (.call false) .completed, .resume (.call true) .completed,
    .resume (.call false) .completed]

/-- Whatever fails and whatever is cancelled, the lock is held exactly for the call that is
within a session, and there is at most one. -/
theorem sessions_exclusive (reached : (start clients calls).run environment events = some last) :
    (∀ call, InSession last call ↔ ∃ attempt, last.state.holder = some ⟨call, attempt⟩) ∧
      ∀ call other, InSession last call → InSession last other → call = other := by
  have stand := reached_stands reached
  constructor
  · exact inSession_iff_holdsLock stand
  · intro call other first second
    exact ((inSession_iff_holdsLock stand call).mp first).same
      ((inSession_iff_holdsLock stand other).mp second)

theorem sessions_exclusive_contended :
    ∃ last, (start (fun _ : Bool => sampleClient) fun _ => .readStatus).run environment
        contended = some last ∧ InSession last false ∧ ¬ InSession last true := by
  have exclusive (last : CallsPool Bool)
      (reached : (start (fun _ : Bool => sampleClient) fun _ => .readStatus).run environment
        contended = some last) := sessions_exclusive reached
  refine ⟨_, rfl, ((exclusive _ rfl).1 false).mpr ⟨0, rfl⟩, ?_⟩
  intro second
  rcases ((exclusive _ rfl).1 true).mp second with ⟨_, held⟩
  cases held

/-! ## Progress -/

/-- Every call has ended, and left nothing behind that holds up another one. -/
structure Finished (pool : CallsPool Call) : Prop where
  calls : ∀ call, ∃ outcome, pool.codes (.call call) = .done outcome
  lock : pool.state.holder = none
  cleanups : ∀ key, (pool.state.sessions key).cleanup = .uncreated ∨
    ∃ outcome, (pool.state.sessions key).cleanup = .ended outcome

/-- A step that is no cancellation. -/
def Advances (pool : CallsPool Call) : Prop :=
  ∃ task choice next, choice ≠ .cancelled ∧
    pool.step environment (.resume task choice) = some next

theorem advances_of_answer {pool : CallsPool Call} {task : PoolTask Call}
    {operation : PoolOperation Call} (choice : PoolChoice) {reply : Raises operation.Reply}
    {after : CallPool Call} (uncancelled : choice ≠ .cancelled)
    (suspended : (pool.codes task).suspendedOn? = some operation)
    (answered : answer task operation choice pool.state = some (reply, after)) :
    Advances pool := by
  have enabled : environment.answer task operation choice pool.state = some (reply, after) :=
    answered
  rcases Pool.exists_step suspended enabled with ⟨next, stepped⟩
  exact ⟨task, choice, next, uncancelled, stepped⟩

/-- Only waits for the lock and for a clean-up hold a task up. -/
theorem advances_alone {pool : CallsPool Call} {task : PoolTask Call}
    {operation : PoolOperation Call} (suspended : (pool.codes task).suspendedOn? = some operation)
    (alone : operation.waitsForOthers = false)
    (begins : ∀ key, task = .cleanup key → operation = .begin →
      (pool.state.sessions key).cleanup = .created) : Advances pool := by
  cases operation with
  | begin =>
      cases task with
      | call call => exact advances_of_answer .completed nofun suspended rfl
      | cleanup key =>
          apply advances_of_answer .completed nofun suspended
          exact if_pos (begins key rfl rfl)
  | isConnected => exact advances_of_answer (.connected true) nofun suspended rfl
  | acquireBleLock key => cases alone
  | shieldCleanup key => cases alone
  | awaitCleanup key => cases alone
  | _ => exact advances_of_answer .completed nofun suspended rfl

theorem cleanup_advances (stand : Pool.AllStand environment outline last) {key : SessionKey Call}
    (created : (last.state.sessions key).cleanup ≠ .uncreated)
    (running : ∀ outcome, (last.state.sessions key).cleanup ≠ .ended outcome) :
    Advances last := by
  rcases (stand (.cleanup key)).position with ⟨_, _, _, outcome, ended⟩ |
    ⟨operation, suspended, stands⟩
  · exact absurd ended (running outcome)
  · apply advances_alone suspended stands.alone
    intro cleaned same isBegin
    cases same
    exact (stands.begins isBegin).resolve_left created

/-- A call that does not wait for the lock can go on, or the clean-up that it waits for can. -/
theorem call_advances (stand : Pool.AllStand environment outline last) {call : Call}
    {operation : PoolOperation Call}
    (suspended : (last.codes (.call call)).suspendedOn? = some operation)
    (stands : CallStands call operation last.state)
    (acquires : ∀ key, operation ≠ .acquireBleLock key) : Advances last := by
  have waits (key : SessionKey Call)
      (ends : ∀ outcome, (last.state.sessions key).cleanup = .ended outcome → Advances last)
      (isWait : operation = .shieldCleanup key ∨ operation = .awaitCleanup key) :
      Advances last := by
    by_cases ended : ∃ outcome, (last.state.sessions key).cleanup = .ended outcome
    · rcases ended with ⟨outcome, isEnded⟩
      exact ends outcome isEnded
    · apply cleanup_advances stand (stands.cleaning key isWait)
      exact fun outcome isEnded => ended ⟨outcome, isEnded⟩
  have awaitEnded_eq {key : SessionKey Call} {outcome : Raises Unit}
      (ended : (last.state.sessions key).cleanup = .ended outcome) :
      last.state.awaitEnded key = some (outcome, last.state) := by
    rw [awaitEnded, ended]
  by_cases alone : operation.waitsForOthers = false
  · apply advances_alone suspended alone
    intro cleaned same
    cases same
  cases operation with
  | acquireBleLock key => exact absurd rfl (acquires key)
  | shieldCleanup key =>
      apply waits key _ (.inl rfl)
      intro outcome ended
      exact advances_of_answer .completed nofun suspended (awaitEnded_eq ended)
  | awaitCleanup key =>
      apply waits key _ (.inr rfl)
      intro outcome ended
      exact advances_of_answer .completed nofun suspended (awaitEnded_eq ended)
  | _ => exact absurd rfl alone

/-- Where all tasks stand as their outlines say, a task can be resumed. -/
theorem stand_progress (stand : Pool.AllStand environment outline last) :
    Finished last ∨ Advances last := by
  cases holder : last.state.holder with
  | some key =>
      -- the call that holds the lock does not wait for it
      right
      have holds : HoldsLock key.call last.state := holdsLock_of_held holder
      rcases (stand (.call key.call)).position with ⟨_, _, ended⟩ | ⟨operation, suspended, stands⟩
      · exact absurd holds ended
      · apply call_advances stand suspended stands
        rintro other rfl
        cases stands.locked.mpr holds
  | none =>
      by_cases done : ∀ call, ∃ outcome, last.codes (.call call) = .done outcome
      · by_cases cleaned : ∀ key, (last.state.sessions key).cleanup = .uncreated ∨
            ∃ outcome, (last.state.sessions key).cleanup = .ended outcome
        · exact .inl ⟨done, holder, cleaned⟩
        · right
          rcases not_forall.mp cleaned with ⟨key, active⟩
          rcases not_or.mp active with ⟨created, running⟩
          exact cleanup_advances stand created fun outcome ended => running ⟨outcome, ended⟩
      · right
        rcases not_forall.mp done with ⟨call, unfinished⟩
        rcases (stand (.call call)).position with ⟨outcome, isDone, _⟩ |
          ⟨operation, suspended, stands⟩
        · exact absurd ⟨outcome, isDone⟩ unfinished
        · by_cases acquires : ∃ key, operation = .acquireBleLock key
          · rcases acquires with ⟨key, rfl⟩
            apply advances_of_answer .completed nofun suspended
            · rw [answer, complete, holder]
          · apply call_advances stand suspended stands
            exact fun key same => acquires ⟨key, same⟩

/-- No state that calls, failures and cancellations lead to is a deadlock. -/
theorem calls_progress (reached : (start clients calls).run environment events = some last) :
    Finished last ∨ Advances last :=
  stand_progress (reached_stands reached)

theorem calls_progress_contended :
    ∃ last, (start (fun _ : Bool => sampleClient) fun _ => .readStatus).run environment
        contended = some last ∧ Advances last := by
  refine ⟨_, rfl, ?_⟩
  rcases @calls_progress Bool _ (fun _ => sampleClient) (fun _ => .readStatus) contended _ rfl
    with finished | advances
  · cases finished.lock
  · exact advances

/-! ## The length of a run -/

/-- Whatever a task does. -/
abbrev Bounded {Result : Type} (code : PoolAsync Call Result) (steps : Nat) : Prop :=
  code.Confined (fun _ => True) (fun _ => True) steps

omit [DecidableEq Call] in
theorem Within.bounded {Result : Type} {operations : PoolOperation Call → Prop}
    {code : PoolAsync Call Result} {steps : Nat} (within : Within operations code steps) :
    Bounded code steps :=
  within.mono (fun _ _ => trivial) (fun _ _ => trivial) (Nat.le_refl steps)

omit [DecidableEq Call] in
theorem bounded_await (operation : PoolOperation Call) : Bounded (await operation) 1 :=
  Coroutine.Confined.perform trivial

omit [DecidableEq Call] in
theorem bounded_modify (transform : CallPool Call → CallPool Call) :
    Bounded (Coroutine.modify transform) 0 :=
  Coroutine.Confined.modify trivial

theorem cleanupTask_bounded (key : SessionKey Call) : Bounded (cleanupTask key) 6 := by
  have closes (session : Bool) : Bounded (do
      (sessionPrimitives key).closeBleClient session
      pure (.ok ()) : PoolAsync Call (Raises Unit)) 5 :=
    (closeBleClient_within session).bounded.bind 0 fun _ => trivial
  have reads : Bounded (sessionPrimitives key).hasSession 0 := fun _ => trivial
  have runs : Bounded (do
      await .begin
      let session ← (sessionPrimitives key).hasSession
      (sessionPrimitives key).closeBleClient session
      pure (.ok ()) : PoolAsync Call (Raises Unit)) 6 :=
    (bounded_await .begin).bind 5 fun _ => reads.bind 5 closes
  have handles (error : PythonException) :
      Bounded (pure (.error error) : PoolAsync Call (Raises Unit)) 0 := trivial
  have attempts : Bounded (tryCatch (do
      await .begin
      let session ← (sessionPrimitives key).hasSession
      (sessionPrimitives key).closeBleClient session
      pure (.ok ()) : PoolAsync Call (Raises Unit)) fun error => pure (.error error)) 6 :=
    runs.tryCatch handles
  exact attempts.bind 0 fun _ => bounded_modify _

theorem runSession_bounded (client : TiltShadeClient) (key : SessionKey Call) :
    Bounded (runSession client key) 10 := by
  have reads : Bounded (sessionPrimitives key).hasSession 0 := fun _ => trivial
  have cleans : Bounded (do
      let session ← (sessionPrimitives key).hasSession
      (sessionPrimitives key).awaitCancellationSafeCleanup
        ((sessionPrimitives key).closeBleClient session) : PoolAsync Call Unit) 2 :=
    reads.bind 2 fun _ => (bounded_modify _).bind 2 fun _ => waits_within.bounded
  have body := (@sessionBody_within Call _ key client.shadeId).bounded.tryFinally cleans
  have uses : Bounded (do
      (sessionPrimitives key).clientFactory
      (sessionPrimitives key).forgetSession
      tryFinally ((sessionPrimitives key).sessionBody client.shadeId (await .runOperation))
        (do
          let session ← (sessionPrimitives key).hasSession
          (sessionPrimitives key).awaitCancellationSafeCleanup
            ((sessionPrimitives key).closeBleClient session)) : PoolAsync Call Unit) 9 :=
    (bounded_await _).bind 8 fun _ => (bounded_modify _).bind 8 fun _ => body
  have releases : Bounded (sessionPrimitives key).releaseBleLock 0 := bounded_modify _
  exact (bounded_await _).bind 9 fun _ => uses.tryFinally releases

theorem callTask_bounded (client : TiltShadeClient) (call : Call) (clientCall : ClientCall) :
    Bounded (callTask client call clientCall) 22 := by
  have first := runSession_bounded client ⟨call, 0⟩
  have second := runSession_bounded client ⟨call, 1⟩
  cases clientCall with
  | readStatus =>
      have handles (error : PythonException) : Bounded (if TiltShadeClient.isTransient error then do
          await (.sleep statusReadRetryDelaySeconds)
          runSession client ⟨call, 1⟩
        else throw error) 11 := by
        split
        · exact (bounded_await _).bind 10 fun _ => second
        · trivial
      exact (bounded_await .begin).bind 21 fun _ => first.tryCatch handles
  | setPositionAndReadStatus positionPercent settleSeconds =>
      refine (bounded_await .begin).bind 21 fun _ => ?_
      cases requested : client.requestedPosition positionPercent with
      | error error => trivial
      | ok percent =>
          exact first.mono (fun _ => id) (fun _ => id) (by omega)

/-- How often a task can be resumed. -/
def bound : PoolTask Call → Nat
  | .call _ => 22
  | .cleanup _ => 6

theorem start_bounded (task : PoolTask Call) :
    Bounded ((start clients calls).codes task) (bound task) := by
  cases task with
  | call call => exact callTask_bounded (clients call) call (calls call)
  | cleanup key => exact cleanupTask_bounded key

theorem stepped_few (stand : Pool.AllStand environment outline last) {key : SessionKey Call}
    {choice : PoolChoice} {next : CallsPool Call}
    (stepped : last.step environment (.resume (.cleanup key) choice) = some next) :
    key.attempt < 2 := by
  rcases (stand (.cleanup key)).position with ⟨_, _, few, _⟩ | ⟨operation, suspended, stands⟩
  · exact few
  apply stands.tried
  by_cases isBegin : operation = .begin
  · subst isBegin
    rcases Pool.step_answered stepped with ⟨awaited, reply, after, alsoSuspended, answered⟩
    cases Option.some.inj (suspended.symm.trans alsoSuspended)
    have created : (last.state.sessions key).cleanup = .created := by
      cases choice with
      | completed => exact (Option.ite_none_right_eq_some.mp answered).1
      | cancelled => exact (Option.ite_none_right_eq_some.mp answered).1.2
      | failed error => cases answered
      | connected connected => cases answered
    rw [created]
    exact nofun
  · exact stands.begun isBegin

/-- The tasks of a call that can move. -/
def tasksOf (call : Call) : Finset (PoolTask Call) :=
  {.call call, .cleanup ⟨call, 0⟩, .cleanup ⟨call, 1⟩}

omit [DecidableEq Call] in
theorem mem_tasksOf [DecidableEq Call] {call : Call} {task : PoolTask Call} :
    task ∈ tasksOf call ↔
      task = .call call ∨ task = .cleanup ⟨call, 0⟩ ∨ task = .cleanup ⟨call, 1⟩ := by
  rw [tasksOf, Finset.mem_insert, Finset.mem_insert, Finset.mem_singleton]

theorem sum_tasksOf (call : Call) : ∑ task ∈ tasksOf call, bound task = 34 := by
  have first : PoolTask.cleanup ⟨call, 0⟩ ∉ ({.cleanup ⟨call, 1⟩} : Finset (PoolTask Call)) := by
    simp
  have second : PoolTask.call call ∉
      ({.cleanup ⟨call, 0⟩, .cleanup ⟨call, 1⟩} : Finset (PoolTask Call)) := by
    simp
  rw [tasksOf, Finset.sum_insert second, Finset.sum_insert first, Finset.sum_singleton]
  rfl

theorem tasksOf_disjoint {call other : Call} (different : call ≠ other) :
    Disjoint (tasksOf call) (tasksOf other) := by
  apply Finset.disjoint_left.mpr
  intro task mine theirs
  rw [mem_tasksOf] at mine theirs
  rcases mine with rfl | rfl | rfl
  · rcases theirs with same | same | same
    · cases same
      exact different rfl
    · cases same
    · cases same
  · rcases theirs with same | same | same
    · cases same
    · cases same
      exact different rfl
    · cases same
  · rcases theirs with same | same | same
    · cases same
    · cases same
    · cases same
      exact different rfl

theorem stepped_mem (stand : Pool.AllStand environment outline last) {task : PoolTask Call}
    {choice : PoolChoice} {next : CallsPool Call}
    (stepped : last.step environment (.resume task choice) = some next) :
    ∃ call, task ∈ tasksOf call := by
  cases task with
  | call call => exact ⟨call, mem_tasksOf.mpr (.inl rfl)⟩
  | cleanup key =>
      rcases key with ⟨call, attempt⟩
      refine ⟨call, mem_tasksOf.mpr (.inr ?_)⟩
      have few : attempt < 2 := stepped_few stand stepped
      rcases Nat.lt_succ_iff_lt_or_eq.mp few with first | rfl
      · rw [Nat.lt_one_iff.mp first]
        exact .inl rfl
      · exact .inr rfl

/-- However the calls fail and are cancelled, they take at most 34 steps each. -/
theorem length_bounded [Fintype Call]
    (reached : (start clients calls).run environment events = some last) :
    events.length ≤ 34 * Fintype.card Call := by
  have moves (task : PoolTask Call) (choice : PoolChoice) (taken : .resume task choice ∈ events) :
      task ∈ Finset.univ.biUnion tasksOf := by
    rcases Pool.exists_stepped taken reached with ⟨earlier, middle, next, before, stepped⟩
    rcases stepped_mem (reached_stands before) stepped with ⟨call, member⟩
    exact Finset.mem_biUnion.mpr ⟨call, Finset.mem_univ call, member⟩
  have few := Pool.length_le_sum (fun task _ => start_bounded task) moves reached
  rw [Finset.sum_biUnion fun call _ other _ => tasksOf_disjoint] at few
  rw [Finset.sum_const_nat fun call _ => sum_tasksOf call, Finset.card_univ, Nat.mul_comm] at few
  exact few

/-- A scheduling decision that cancels a task. -/
def IsCancellation : PoolEvent (PoolTask Call) Empty PoolChoice → Prop
  | .resume _ choice => choice = .cancelled
  | .background _ => False

/-- Wherever failures and cancellations have led, the calls come to their end without
another cancellation. -/
theorem exists_finished [Fintype Call]
    (reached : (start clients calls).run environment events = some last) :
    ∃ more final, (∀ event ∈ more, ¬ IsCancellation event) ∧
      last.run environment more = some final ∧ Finished final := by
  obtain ⟨left, bounded⟩ : ∃ left, 34 * Fintype.card Call ≤ events.length + left :=
    ⟨_, Nat.le_add_left _ _⟩
  induction left generalizing events last with
  | zero =>
      -- a longer run would be longer than all of them
      rcases stand_progress (reached_stands reached) with
        finished | ⟨task, choice, next, _, stepped⟩
      · exact ⟨[], last, nofun, rfl, finished⟩
      · have short := length_bounded (Pool.run_concat reached stepped)
        rw [List.length_append, List.length_singleton] at short
        omega
  | succ left induction =>
      rcases stand_progress (reached_stands reached) with
        finished | ⟨task, choice, next, uncancelled, stepped⟩
      · exact ⟨[], last, nofun, rfl, finished⟩
      · rcases induction (Pool.run_concat reached stepped) (by
          rw [List.length_append, List.length_singleton]
          omega) with ⟨more, final, uncancelledMore, goesOn, finished⟩
        refine ⟨.resume task choice :: more, final, ?_, ?_, finished⟩
        · intro event member
          rcases List.mem_cons.mp member with rfl | member
          · exact uncancelled
          · exact uncancelledMore event member
        · rw [Pool.run, stepped]
          exact goesOn

/-- However finitely many calls interleave, fail and are cancelled, they take at most 34 steps
each, and from wherever they are they can all be brought to their end, with the lock free
and no clean-up pending. A step ends or cancels one await; the handshake and the operation of a
session are one await each. -/
theorem calls_finish [Fintype Call]
    (reached : (start clients calls).run environment events = some last) :
    events.length ≤ 34 * Fintype.card Call ∧
      ∃ more final, (∀ event ∈ more, ¬ IsCancellation event) ∧
        last.run environment more = some final ∧ Finished final :=
  ⟨length_bounded reached, exists_finished reached⟩

theorem calls_finish_contended :
    ∃ last, (start (fun _ : Bool => sampleClient) fun _ => .readStatus).run environment
        contended = some last ∧
      ∃ more final, (∀ event ∈ more, ¬ IsCancellation event) ∧
        last.run environment more = some final ∧ Finished final := by
  refine ⟨_, rfl, ?_⟩
  exact (@calls_finish Bool _ (fun _ => sampleClient) (fun _ => .readStatus) contended _ _ rfl).2

end Runs

end CallPool

end SmartblindsBle
