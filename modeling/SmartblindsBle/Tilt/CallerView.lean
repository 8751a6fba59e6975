import SmartblindsBle.Tilt.Client

/-! # What the caller's task alone changes

The notification callback and the worker write to the response queue, to the
waiters and to the assembler. The rest of the session, and the history without
the worker's acknowledgements, belong to the caller's task. `Behaves` reasons
about the code of that task in terms of its own part of the world; the other
part may change arbitrarily at every suspension point.
-/

namespace SmartblindsBle

open Foundation

def Action.isAcknowledged : Action → Bool
  | .acknowledged _ => true
  | _ => false

/-- The part of the world that only the caller's task changes. -/
@[ext] structure CallerView where
  txSequence : Nat
  counter : Int
  messageId : Int
  nonce : Option Bytes
  hasSession : Bool
  history : List Action

def World.callerView (world : World) : CallerView where
  txSequence := world.session.txSequence
  counter := world.session.counter
  messageId := world.session.messageId
  nonce := world.session.nonce
  hasSession := world.hasSession
  history := world.history.filter fun action => !action.isAcknowledged

def CallerView.record (action : Action) (view : CallerView) : CallerView :=
  { view with history := view.history ++ [action] }

theorem World.callerView_record (world : World) {action : Action}
    (isOwn : action.isAcknowledged = false) :
    (world.record action).callerView = world.callerView.record action := by
  simp [World.record, World.callerView, CallerView.record, isOwn]

/-! ## The other tasks -/

namespace TiltBleSession

/-- Two session states that differ only in what the callback and the worker write. -/
def SameCaller (before after : TiltBleSession) : Prop :=
  after.txSequence = before.txSequence ∧ after.counter = before.counter ∧
    after.messageId = before.messageId ∧ after.nonce = before.nonce

theorem notificationReceived_sameCaller (data : Bytes) (session : TiltBleSession) :
    session.SameCaller (session.notificationReceived data) := by
  unfold notificationReceived
  split <;> exact ⟨rfl, rfl, rfl, rfl⟩

theorem workerRaised_sameCaller (error : PythonException) (session : TiltBleSession) :
    session.SameCaller (session.workerRaised error) := by
  unfold workerRaised
  split <;> exact ⟨rfl, rfl, rfl, rfl⟩

theorem handleNotification_sameCaller (data : Bytes) (session : TiltBleSession) :
    session.SameCaller (session.handleNotification data).1 := by
  unfold handleNotification
  split
  · exact workerRaised_sameCaller _ _
  · split
    · split
      · exact workerRaised_sameCaller _ _
      · exact ⟨rfl, rfl, rfl, rfl⟩
    · split
      · exact workerRaised_sameCaller _ { session with assembler := _ }
      · split
        · exact workerRaised_sameCaller _ { session with assembler := _ }
        · exact ⟨rfl, rfl, rfl, rfl⟩

theorem acknowledgementWritten_sameCaller (outcome : Raises Unit) (message : Option Bytes)
    (session : TiltBleSession) :
    session.SameCaller (session.acknowledgementWritten outcome message) := by
  unfold acknowledgementWritten
  rcases outcome with error | ⟨⟩
  · exact workerRaised_sameCaller error { session with worker := some .waiting }
  · cases message with
    | none => exact ⟨rfl, rfl, rfl, rfl⟩
    | some message =>
        simp only
        split
        · exact ⟨rfl, rfl, rfl, rfl⟩
        · exact workerRaised_sameCaller .queueFull { session with worker := some .waiting }

end TiltBleSession

theorem World.callerView_session {before after : World}
    (same : before.session.SameCaller after.session)
    (sameHasSession : after.hasSession = before.hasSession)
    (sameHistory : after.history = before.history) : after.callerView = before.callerView := by
  rcases same with ⟨sameSequence, sameCounter, sameMessageId, sameNonce⟩
  simp only [World.callerView, sameSequence, sameCounter, sameMessageId, sameNonce,
    sameHasSession, sameHistory]

/-- The other tasks leave the caller's part alone. -/
theorem World.background_callerView {action : Background} {before after : World}
    (stepped : World.background action before = some after) :
    after.callerView = before.callerView := by
  cases action with
  | notify data =>
      simp only [World.background, Option.ite_none_right_eq_some, Option.some.injEq] at stepped
      rcases stepped with ⟨_, rfl⟩
      exact callerView_session (TiltBleSession.notificationReceived_sameCaller data _) rfl rfl
  | work =>
      simp only [World.background] at stepped
      split at stepped
      · next data rest isWaiting isQueued =>
          have same := TiltBleSession.handleNotification_sameCaller data
            { before.session with notificationQueue := rest }
          split at stepped
          · cases stepped
            exact callerView_session same rfl rfl
          · cases stepped
            refine Eq.trans ?_ (@callerView_session before
              ⟨_, before.hasSession, before.history⟩ same rfl rfl)
            simp [World.record, World.callerView, Action.isAcknowledged]
      · cases stepped
  | workWritten outcome =>
      simp only [World.background] at stepped
      split at stepped
      · cases stepped
      · cases stepped
        exact callerView_session
          (TiltBleSession.acknowledgementWritten_sameCaller _ _ _) rfl rfl
      · cases stepped

/-- The possible answers to an operation other than the wait for a response:
nothing changes, and nobody but the cancelled worker answers `CancelledError`. -/
theorem World.answer_cases {operation : Operation} (notResponse : operation ≠ .getResponse)
    {choice : Choice} {world after : World} {reply : Raises operation.Reply}
    (answered : World.answer operation choice world = some (reply, after)) :
    after = world ∧ (operation ≠ .awaitWorker →
      ∀ error, reply = .error error → error.isOrdinary = true) := by
  cases choice with
  | completed =>
      cases operation <;> simp only [World.answer, World.complete] at answered
      case isConnected => cases answered
      case getResponse => exact absurd rfl notResponse
      case awaitWorker =>
          cases answered
          exact ⟨rfl, fun notWorker => absurd rfl notWorker⟩
      case waitAck sequence =>
          split at answered
          · cases answered
            exact ⟨rfl, fun _ => nofun⟩
          · next failure _ =>
              cases answered
              refine ⟨rfl, fun _ error same => ?_⟩
              cases same
              exact failure.property
          · cases answered
      all_goals
        cases answered
        exact ⟨rfl, fun _ => nofun⟩
  | timedOut =>
      simp only [World.answer, Option.ite_none_right_eq_some] at answered
      cases answered.2
      refine ⟨rfl, fun _ error same => ?_⟩
      cases same
      rfl
  | failed failure =>
      simp only [World.answer, Option.ite_none_right_eq_some] at answered
      cases answered.2
      refine ⟨rfl, fun _ error same => ?_⟩
      cases same
      exact answered.1.2
  | connected connected =>
      cases operation <;> cases answered
      exact ⟨rfl, fun _ => nofun⟩

/-- An answer that the event loop can give to an operation. -/
def Operation.Answers (operation : Operation) (reply : Raises operation.Reply) : Prop :=
  ∃ choice world after, World.answer operation choice world = some (reply, after)

theorem Operation.sleep_answers {seconds : Rat} {reply : Raises Unit}
    (answers : (Operation.sleep seconds).Answers reply) : reply = .ok () := by
  rcases answers with ⟨choice, world, after, answered⟩
  cases choice with
  | completed =>
      cases answered
      rfl
  | timedOut => cases answered
  | failed error => simp [World.answer, Operation.callsClient] at answered
  | connected connected => cases answered

/-- An outcome that is not a cancellation. -/
def Ordinary {Result : Type} (outcome : Raises Result) : Prop :=
  ∀ error, outcome = .error error → error.isOrdinary = true

theorem ordinary_ok {Result : Type} (value : Result) : Ordinary (.ok value) := nofun

theorem ordinary_error {Result : Type} {error : PythonException}
    (isOrdinary : error.isOrdinary = true) : Ordinary (.error error : Raises Result) := by
  rintro other same
  cases same
  exact isOrdinary

theorem Operation.Answers.ordinary {operation : Operation} {reply : Raises operation.Reply}
    (answers : operation.Answers reply) (notResponse : operation ≠ .getResponse)
    (notWorker : operation ≠ .awaitWorker) : Ordinary reply := by
  rcases answers with ⟨choice, world, after, answered⟩
  exact (World.answer_cases notResponse answered).2 notWorker

/-- Which messages may stand in the response queue, given what the caller's task
has done so far. -/
structure Network where
  message : List Action → Bytes → Prop
  mono : ∀ {before after : List Action} {frame : Bytes},
    before <+: after → message before frame → message after frame

namespace Network

/-- Nothing is assumed of the messages. -/
def arbitrary : Network := ⟨fun _ _ => True, fun _ _ => trivial⟩

def Admits (network : Network) (world : World) : Prop :=
  ∀ frame, ResponseItem.message frame ∈ world.session.responseQueue →
    network.message world.callerView.history frame

theorem arbitrary_admits (world : World) : arbitrary.Admits world := fun _ _ => trivial

/-- What the caller's task relies on while it is suspended. -/
def rely (network : Network) : Interference World where
  Allows before after :=
    after.callerView = before.callerView ∧ (network.Admits before → network.Admits after)
  refl _ := ⟨rfl, id⟩
  trans earlier later := ⟨later.1.trans earlier.1, fun admits => later.2 (earlier.2 admits)⟩

theorem Admits.grow {network : Network} {before after : World} (admits : network.Admits before)
    (queue : after.session.responseQueue ⊆ before.session.responseQueue)
    (grows : before.callerView.history <+: after.callerView.history) : network.Admits after :=
  fun frame queued => network.mono grows (admits frame (queue queued))

end Network

/-! ## Reasoning about the caller's task -/

/-- Started with the view `view`, the task has a view in `during` whenever it is
suspended or finished, and it finishes only as `ends` allows. -/
def Behaves {Result : Type} (network : Network) (code : Async Result) (view : CallerView)
    (during : CallerView → Prop) (ends : Raises Result → CallerView → Prop) : Prop :=
  ∀ world, world.callerView = view → network.Admits world →
    code.Ensures eventLoop network.rely (fun later => during later.callerView)
      (fun outcome later => network.Admits later ∧ ends outcome later.callerView) world

namespace Behaves

variable {Result Value : Type} {network : Network} {view : CallerView}
variable {during : CallerView → Prop} {ends : Raises Result → CallerView → Prop}

theorem mono {code : Async Result} {weakerDuring : CallerView → Prop}
    {weakerEnds : Raises Result → CallerView → Prop}
    (behaves : Behaves network code view during ends)
    (keeps : ∀ later, during later → weakerDuring later)
    (implies : ∀ outcome later, ends outcome later → weakerEnds outcome later) :
    Behaves network code view weakerDuring weakerEnds := by
  intro world same admits
  apply (behaves world same admits).mono (fun later => keeps later.callerView)
  intro outcome later holds
  exact ⟨holds.1, implies outcome later.callerView holds.2⟩

theorem done {outcome : Raises Result} (holds : during view) (allowed : ends outcome view) :
    Behaves network (.done outcome) view during ends := by
  intro world same admits later interferes
  have sameLater : later.callerView = view := interferes.1.trans same
  subst sameLater
  exact ⟨holds, interferes.2 admits, allowed⟩

theorem inspect {next : World → Async Result}
    (behaves : ∀ world, world.callerView = view →
      Behaves network (next world) view during ends) :
    Behaves network (.inspect next) view during ends :=
  fun world same admits => behaves world same world same admits

theorem update {transform : World → World} {next : Async Result} (after : CallerView)
    (changes : ∀ world, world.callerView = view → (transform world).callerView = after)
    (queue : ∀ world,
      (transform world).session.responseQueue ⊆ world.session.responseQueue)
    (grows : view.history <+: after.history)
    (behaves : Behaves network next after during ends) :
    Behaves network (.update transform next) view during ends := by
  intro world same admits
  refine behaves (transform world) (changes world same)
    (admits.grow (queue world) ?_)
  rw [changes world same, same]
  exact grows

theorem bind {first : Async Value} {rest : Value → Async Result}
    (behaves : Behaves network first view during fun outcome later =>
      match outcome with
      | .ok value => Behaves network (rest value) later during ends
      | .error error => ends (.error error) later) :
    Behaves network (first >>= rest) view during ends := by
  intro world same admits
  refine Coroutine.Ensures.bind ((behaves world same admits).weaken ?_)
  intro outcome later holds
  cases outcome with
  | ok value => exact holds.2 later rfl holds.1
  | error error => exact holds

theorem tryCatch {body : Async Result} {handler : PythonException → Async Result}
    (behaves : Behaves network body view during fun outcome later =>
      match outcome with
      | .ok value => ends (.ok value) later
      | .error error => Behaves network (handler error) later during ends) :
    Behaves network (tryCatch body handler) view during ends := by
  intro world same admits
  refine Coroutine.Ensures.tryCatch ((behaves world same admits).weaken ?_)
  intro outcome later holds
  cases outcome with
  | ok value => exact holds
  | error error => exact holds.2 later rfl holds.1

theorem tryFinally {body : Async Result} {cleanup : Async Unit}
    (behaves : Behaves network body view during fun outcome later =>
      Behaves network cleanup later during fun cleaned last =>
        match cleaned with
        | .ok _ => ends outcome last
        | .error error => ends (.error error) last) :
    Behaves network (tryFinally body cleanup) view during ends := by
  intro world same admits
  refine Coroutine.Ensures.tryFinally ((behaves world same admits).weaken ?_)
  intro outcome later holds
  apply (holds.2 later rfl holds.1).weaken
  intro cleaned last after
  cases cleaned with
  | ok _ => exact after
  | error error => exact after

theorem ite {condition : Prop} [Decidable condition] {first second : Async Result}
    (firstBehaves : condition → Behaves network first view during ends)
    (secondBehaves : ¬condition → Behaves network second view during ends) :
    Behaves network (if condition then first else second) view during ends := by
  split
  · next holds => exact firstBehaves holds
  · next fails => exact secondBehaves fails

theorem await {operation : Operation} {resume : Raises operation.Reply → Async Result}
    (enters : ∀ world, World.enter operation world = world)
    (notResponse : operation ≠ .getResponse) (holds : during view)
    (behaves : ∀ reply, operation.Answers reply →
      Behaves network (resume reply) view during ends) :
    Behaves network (.await operation resume) view during ends := by
  intro world same admits later interferes
  change network.rely.Allows (World.enter operation world) later at interferes
  rw [enters] at interferes
  have sameLater : later.callerView = view := interferes.1.trans same
  subst sameLater
  refine ⟨holds, ?_⟩
  intro choice reply after answered
  have unchanged := (World.answer_cases notResponse answered).1
  subst unchanged
  exact behaves reply ⟨choice, after, after, answered⟩ after rfl (interferes.2 admits)

/-- What holds of the code holds of every run on an admitted network. -/
theorem reached_within {code : Async Result} {world : World}
    (behaves : Behaves network code world.callerView during ends)
    (admits : network.Admits world) {events : List (Event Background Choice)}
    {task : Task World Operation Operation.Reply PythonException Result}
    (within : eventLoop.StaysWithin network.Admits (eventLoop.settle code world) events)
    (reached : eventLoop.run (eventLoop.settle code world) events = some task) :
    during task.state.callerView ∧
      ∀ outcome, task.code = .done outcome → ends outcome task.state.callerView := by
  have interferes : ∀ action state after, eventLoop.background action state = some after →
      network.Admits after → network.rely.Allows state after := by
    intro action state after moved admitted
    exact ⟨World.background_callerView moved, fun _ => admitted⟩
  have rests := (behaves world rfl admits).run_within interferes within reached
  refine ⟨rests.invariant_holds, ?_⟩
  intro outcome finished
  rcases task with ⟨code, state⟩
  subst finished
  exact rests.post_holds.2

theorem reached {code : Async Result} {world : World}
    (behaves : Behaves .arbitrary code world.callerView during ends)
    {events : List (Event Background Choice)}
    {task : Task World Operation Operation.Reply PythonException Result}
    (reached : eventLoop.run (eventLoop.settle code world) events = some task) :
    during task.state.callerView ∧
      ∀ outcome, task.code = .done outcome → ends outcome task.state.callerView := by
  have interferes : ∀ action state after, eventLoop.background action state = some after →
      Network.arbitrary.rely.Allows state after := by
    intro action state after moved
    exact ⟨World.background_callerView moved, fun _ => Network.arbitrary_admits after⟩
  have rests := (behaves world rfl (Network.arbitrary_admits world)).run interferes reached
  refine ⟨rests.invariant_holds, ?_⟩
  intro outcome finished
  rcases task with ⟨code, state⟩
  subst finished
  exact rests.post_holds.2

end Behaves

/-! ## Invariants -/

/-- The task keeps an invariant, whatever its outcome. -/
def Keeps {Result : Type} (network : Network) (code : Async Result)
    (invariant : CallerView → Prop) (view : CallerView) : Prop :=
  Behaves network code view invariant fun _ => invariant

namespace Keeps

variable {Result Value : Type} {network : Network} {invariant : CallerView → Prop}
variable {view : CallerView}

theorem done {outcome : Raises Result} (holds : invariant view) :
    Keeps network (.done outcome) invariant view := Behaves.done holds holds

theorem bind {first : Async Value} {rest : Value → Async Result}
    (firstKeeps : Keeps network first invariant view)
    (restKeeps : ∀ value later, invariant later → Keeps network (rest value) invariant later) :
    Keeps network (first >>= rest) invariant view := by
  refine Behaves.bind (firstKeeps.mono (fun _ => id) ?_)
  rintro (error | value) later holds
  · exact holds
  · exact restKeeps value later holds

theorem tryCatch {body : Async Result} {handler : PythonException → Async Result}
    (bodyKeeps : Keeps network body invariant view)
    (handlerKeeps : ∀ error later, invariant later →
      Keeps network (handler error) invariant later) :
    Keeps network (tryCatch body handler) invariant view := by
  refine Behaves.tryCatch (bodyKeeps.mono (fun _ => id) ?_)
  rintro (error | value) later holds
  · exact handlerKeeps error later holds
  · exact holds

theorem tryFinally {body : Async Result} {cleanup : Async Unit}
    (bodyKeeps : Keeps network body invariant view)
    (cleanupKeeps : ∀ later, invariant later → Keeps network cleanup invariant later) :
    Keeps network (tryFinally body cleanup) invariant view := by
  refine Behaves.tryFinally (bodyKeeps.mono (fun _ => id) ?_)
  intro outcome later holds
  apply (cleanupKeeps later holds).mono (fun _ => id)
  rintro (error | ⟨⟩) last holdsLast <;> exact holdsLast

end Keeps

end SmartblindsBle
