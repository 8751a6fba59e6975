import SmartblindsBle.Foundation.Coroutine

/-! # Runs of a coroutine and rely-guarantee reasoning

An `Environment` says what an operation does when a task suspends on it, what
the other tasks may do meanwhile, and how the operation may be answered. A run
is a list of events: steps of the other tasks and answers to the task.
`Coroutine.Ensures` is the proof rule: it is computed on the code of a task and
holds of every state of every run.
-/

namespace Foundation

/-- The surroundings of a task. `enter` is the part of an operation that is
carried out when the task suspends, `background` is one step of the other
tasks, and `answer` resumes the task. A step that is not enabled is `none`. -/
structure Environment (State Op : Type) (Reply : Op → Type)
    (Error Background Choice : Type) where
  enter : Op → State → State
  background : Background → State → Option State
  answer : (operation : Op) → Choice → State →
    Option (Except Error (Reply operation) × State)

/-- The rest of a task together with the shared state. -/
structure Task (State Op : Type) (Reply : Op → Type) (Error Result : Type) where
  code : Coroutine State Op Reply Error Result
  state : State

/-- One scheduling decision of the event loop. -/
inductive Event (Background Choice : Type) where
  | background (action : Background)
  | resume (choice : Choice)

namespace Environment

variable {State Op Error Background Choice Result Value : Type} {Reply : Op → Type}
variable (environment : Environment State Op Reply Error Background Choice)

/-- Run a task up to its next suspension point, or to its end. -/
def settle : Coroutine State Op Reply Error Result → State →
    Task State Op Reply Error Result
  | .done outcome, state => ⟨.done outcome, state⟩
  | .inspect next, state => settle (next state) state
  | .update transform next, state => settle next (transform state)
  | .await operation resume, state =>
      ⟨.await operation resume, environment.enter operation state⟩

def step (task : Task State Op Reply Error Result) :
    Event Background Choice → Option (Task State Op Reply Error Result)
  | .background action => (environment.background action task.state).map (⟨task.code, ·⟩)
  | .resume choice =>
      match task.code with
      | .await operation resume =>
          (environment.answer operation choice task.state).map fun answered =>
            environment.settle (resume answered.1) answered.2
      | _ => none

theorem step_resume (operation : Op)
    (resume : Except Error (Reply operation) → Coroutine State Op Reply Error Result)
    (state : State) (choice : Choice) :
    environment.step ⟨.await operation resume, state⟩ (.resume choice) =
      (environment.answer operation choice state).map fun answered =>
        environment.settle (resume answered.1) answered.2 := rfl

/-- The task after a list of scheduling decisions, if each was enabled. -/
def run (task : Task State Op Reply Error Result) :
    List (Event Background Choice) → Option (Task State Op Reply Error Result)
  | [] => some task
  | event :: events =>
      match environment.step task event with
      | some next => run next events
      | none => none

/-- Every state that a run reaches satisfies `admits`. -/
def StaysWithin (admits : State → Prop) (task : Task State Op Reply Error Result) :
    List (Event Background Choice) → Prop
  | [] => True
  | event :: events =>
      ∀ next, environment.step task event = some next →
        admits next.state ∧ StaysWithin admits next events

@[simp] theorem run_nil (task : Task State Op Reply Error Result) :
    environment.run task [] = some task := rfl

theorem run_cons (task : Task State Op Reply Error Result)
    (event : Event Background Choice) (events : List (Event Background Choice)) :
    environment.run task (event :: events) =
      (environment.step task event).bind (environment.run · events) := by
  rw [run]
  cases environment.step task event <;> rfl

theorem run_append (task : Task State Op Reply Error Result)
    (first second : List (Event Background Choice)) :
    environment.run task (first ++ second) =
      (environment.run task first).bind (environment.run · second) := by
  induction first generalizing task with
  | nil => rfl
  | cons event events induction =>
      rw [List.cons_append, run_cons, run_cons]
      cases environment.step task event with
      | none => rfl
      | some next => exact induction next

theorem run_background {code : Coroutine State Op Reply Error Result} {state after : State}
    {action : Background} (moved : environment.background action state = some after)
    (events : List (Event Background Choice)) :
    environment.run ⟨code, state⟩ (.background action :: events) =
      environment.run ⟨code, after⟩ events := by
  rw [run_cons, step, moved]
  rfl

theorem run_resume {operation : Op}
    {resume : Except Error (Reply operation) → Coroutine State Op Reply Error Result}
    {reply : Except Error (Reply operation)} {state after : State} {choice : Choice}
    (answered : environment.answer operation choice state = some (reply, after))
    (events : List (Event Background Choice)) :
    environment.run ⟨.await operation resume, state⟩ (.resume choice :: events) =
      environment.run (environment.settle (resume reply) after) events := by
  rw [run_cons, step_resume, answered]
  rfl

theorem staysWithin_true (task : Task State Op Reply Error Result)
    (events : List (Event Background Choice)) :
    environment.StaysWithin (fun _ => True) task events := by
  induction events generalizing task with
  | nil => trivial
  | cons event events induction => exact fun next _ => ⟨trivial, induction next⟩

theorem StaysWithin.mono {stronger weaker : State → Prop}
    (implies : ∀ state, stronger state → weaker state)
    {task : Task State Op Reply Error Result} {events : List (Event Background Choice)}
    (within : environment.StaysWithin stronger task events) :
    environment.StaysWithin weaker task events := by
  induction events generalizing task with
  | nil => trivial
  | cons event events induction =>
      intro next enabled
      exact ⟨implies _ (within next enabled).1, induction (within next enabled).2⟩

/-- Whether a run stays within a decidable set of states can be computed. -/
instance decidableStaysWithin {admits : State → Prop} [DecidablePred admits] :
    (task : Task State Op Reply Error Result) → (events : List (Event Background Choice)) →
    Decidable (environment.StaysWithin admits task events)
  | _, [] => .isTrue trivial
  | task, event :: events =>
      match enabled : environment.step task event with
      | none => .isTrue fun _ impossible => nomatch enabled.symm.trans impossible
      | some next =>
          let _ : Decidable (environment.StaysWithin admits next events) :=
            decidableStaysWithin next events
          decidable_of_iff
            (admits next.state ∧ environment.StaysWithin admits next events)
            ⟨fun both _ same => Option.some.inj (enabled.symm.trans same) ▸ both,
              fun every => every next enabled⟩

/-- A task whose every operation can be answered can be run to its end. -/
theorem exists_finished
    (answers : ∀ operation state, ∃ choice reply after,
      environment.answer operation choice state = some (reply, after))
    (code : Coroutine State Op Reply Error Result) (state : State) :
    ∃ events outcome last,
      environment.run (environment.settle code state) events = some ⟨.done outcome, last⟩ := by
  induction code generalizing state with
  | done outcome => exact ⟨[], outcome, state, rfl⟩
  | inspect next induction => exact induction state state
  | update transform next induction => exact induction (transform state)
  | await operation resume induction =>
      rcases answers operation (environment.enter operation state) with
        ⟨choice, reply, after, answered⟩
      rcases induction reply after with ⟨events, outcome, last, finished⟩
      refine ⟨.resume choice :: events, outcome, last, ?_⟩
      rw [run_cons, settle, step_resume, answered]
      exact finished

/-! ## Handled exceptions -/

theorem settle_tryCatch (body : Coroutine State Op Reply Error Result)
    (handler : Error → Coroutine State Op Reply Error Result) (state : State) :
    environment.settle (tryCatch body handler) state =
      match environment.settle body state with
      | ⟨.done (.error error), last⟩ => environment.settle (handler error) last
      | ⟨code, last⟩ => ⟨tryCatch code handler, last⟩ := by
  induction body generalizing state with
  | done outcome =>
      cases outcome with
      | error error => rfl
      | ok value => rfl
  | inspect next induction => exact induction state state
  | update transform next induction => exact induction (transform state)
  | await operation resume induction => rfl

theorem run_done_resume (outcome : Except Error Result) (state : State)
    (events : List (Event Background Choice)) (choice : Choice) :
    environment.run ⟨.done outcome, state⟩ (events ++ [.resume choice]) = none := by
  induction events generalizing state with
  | nil => rfl
  | cons event events induction =>
      rw [List.cons_append, run_cons]
      cases event with
      | resume choice => rfl
      | background action =>
          cases moved : environment.background action state with
          | none =>
              rw [step, moved]
              rfl
          | some after =>
              rw [step, moved]
              exact induction after

variable {environment}

/-- A handler takes over where a suspended body fails. -/
theorem run_handled {code : Coroutine State Op Reply Error Result}
    {handler : Error → Coroutine State Op Reply Error Result} {state last : State}
    {events : List (Event Background Choice)} {choice : Choice} {error : Error}
    (failed : environment.run ⟨code, state⟩ (events ++ [.resume choice]) =
      some ⟨.done (.error error), last⟩) :
    environment.run ⟨tryCatch code handler, state⟩ (events ++ [.resume choice]) =
      some (environment.settle (handler error) last) := by
  induction events generalizing code state with
  | nil =>
      rw [List.nil_append, run_cons] at failed ⊢
      cases code with
      | await operation resume =>
          rw [Coroutine.await_tryCatch]
          rw [step_resume] at failed ⊢
          cases answered : environment.answer operation choice state with
          | none =>
              rw [answered] at failed
              cases failed
          | some reply =>
              rw [answered] at failed
              have settled : environment.settle (resume reply.1) reply.2 =
                  ⟨.done (.error error), last⟩ := Option.some.inj failed
              change some (environment.settle (tryCatch (resume reply.1) handler) reply.2) = _
              rw [settle_tryCatch, settled]
      | _ => cases failed
  | cons event events induction =>
      rw [List.cons_append, run_cons] at failed ⊢
      cases event with
      | background action =>
          rw [step] at failed ⊢
          cases moved : environment.background action state with
          | none =>
              rw [moved] at failed
              cases failed
          | some after =>
              rw [moved] at failed
              exact induction failed
      | resume taken =>
          cases code with
          | await operation resume =>
              rw [Coroutine.await_tryCatch]
              rw [step_resume] at failed ⊢
              cases answered : environment.answer operation taken state with
              | none =>
                  rw [answered] at failed
                  cases failed
              | some reply =>
                  rw [answered] at failed
                  change environment.run (environment.settle (resume reply.1) reply.2) _ = _
                    at failed
                  change environment.run
                    (environment.settle (tryCatch (resume reply.1) handler) reply.2) _ = _
                  rw [settle_tryCatch]
                  generalize environment.settle (resume reply.1) reply.2 = next at failed ⊢
                  rcases next with ⟨rest, middle⟩
                  cases rest with
                  | done outcome =>
                      rw [run_done_resume] at failed
                      cases failed
                  | _ => exact induction failed
          | _ => cases failed

theorem run_tryCatch {body : Coroutine State Op Reply Error Result}
    {handler : Error → Coroutine State Op Reply Error Result} {state last : State}
    {events : List (Event Background Choice)} {choice : Choice} {error : Error}
    (failed : environment.run (environment.settle body state) (events ++ [.resume choice]) =
      some ⟨.done (.error error), last⟩) :
    environment.run (environment.settle (tryCatch body handler) state)
      (events ++ [.resume choice]) = some (environment.settle (handler error) last) := by
  rw [settle_tryCatch]
  generalize environment.settle body state = first at failed ⊢
  rcases first with ⟨code, middle⟩
  cases code with
  | done outcome =>
      rw [run_done_resume] at failed
      cases failed
  | _ => exact run_handled failed

end Environment

/-! ## The proof rule -/

/-- What the other tasks may do to the state while a task is suspended. -/
structure Interference (State : Type) where
  Allows : State → State → Prop
  refl : ∀ state, Allows state state
  trans : ∀ {first middle last}, Allows first middle → Allows middle last → Allows first last

namespace Coroutine

variable {State Op Error Background Choice Result Value : Type} {Reply : Op → Type}

/-- From `state`, every state in which the task is suspended or finished
satisfies `invariant`, and a finished task has an outcome allowed by `post`,
whatever the environment answers and as long as the other tasks stay within
`interference`. -/
def Ensures (environment : Environment State Op Reply Error Background Choice)
    (interference : Interference State) (invariant : State → Prop)
    (post : Except Error Result → State → Prop) :
    Coroutine State Op Reply Error Result → State → Prop
  | .done outcome, state =>
      ∀ later, interference.Allows state later → invariant later ∧ post outcome later
  | .inspect next, state =>
      Ensures environment interference invariant post (next state) state
  | .update transform next, state =>
      Ensures environment interference invariant post next (transform state)
  | .await operation resume, state =>
      ∀ later, interference.Allows (environment.enter operation state) later →
        invariant later ∧ ∀ choice reply after,
          environment.answer operation choice later = some (reply, after) →
            Ensures environment interference invariant post (resume reply) after

variable {environment : Environment State Op Reply Error Background Choice}
variable {interference : Interference State} {invariant : State → Prop}

namespace Ensures

theorem mono {weakerInvariant : State → Prop}
    {post weaker : Except Error Result → State → Prop}
    {code : Coroutine State Op Reply Error Result} {state : State}
    (ensures : code.Ensures environment interference invariant post state)
    (keeps : ∀ later, invariant later → weakerInvariant later)
    (implies : ∀ outcome later, post outcome later → weaker outcome later) :
    code.Ensures environment interference weakerInvariant weaker state := by
  induction code generalizing state with
  | done outcome =>
      intro later interferes
      exact ⟨keeps _ (ensures later interferes).1, implies _ _ (ensures later interferes).2⟩
  | inspect next induction => exact induction state ensures
  | update transform next induction => exact induction ensures
  | await operation resume induction =>
      intro later interferes
      refine ⟨keeps _ (ensures later interferes).1, ?_⟩
      intro choice reply after answered
      exact induction reply ((ensures later interferes).2 choice reply after answered)

theorem weaken {post weaker : Except Error Result → State → Prop}
    {code : Coroutine State Op Reply Error Result} {state : State}
    (ensures : code.Ensures environment interference invariant post state)
    (implies : ∀ outcome later, post outcome later → weaker outcome later) :
    code.Ensures environment interference invariant weaker state :=
  ensures.mono (fun _ holds => holds) implies

theorem closed {post : Except Error Result → State → Prop}
    {code : Coroutine State Op Reply Error Result} {state : State}
    (ensures : code.Ensures environment interference invariant post state) :
    code.Ensures environment interference invariant
      (fun outcome later => ∀ last, interference.Allows later last →
        invariant last ∧ post outcome last) state := by
  induction code generalizing state with
  | done outcome =>
      intro later interferes
      refine ⟨(ensures later interferes).1, ?_⟩
      intro last interferesAgain
      exact ensures last (interference.trans interferes interferesAgain)
  | inspect next induction => exact induction state ensures
  | update transform next induction => exact induction ensures
  | await operation resume induction =>
      intro later interferes
      refine ⟨(ensures later interferes).1, ?_⟩
      intro choice reply after answered
      exact induction reply ((ensures later interferes).2 choice reply after answered)

theorem bind {first : Coroutine State Op Reply Error Value}
    {rest : Value → Coroutine State Op Reply Error Result}
    {post : Except Error Result → State → Prop} {state : State}
    (ensures : first.Ensures environment interference invariant
      (fun outcome later => match outcome with
        | .ok value => (rest value).Ensures environment interference invariant post later
        | .error error => post (.error error) later) state) :
    (first >>= rest).Ensures environment interference invariant post state := by
  induction first generalizing state with
  | done outcome =>
      cases outcome with
      | ok value => exact (ensures state (interference.refl state)).2
      | error error => exact ensures
  | inspect next induction => exact induction state ensures
  | update transform next induction => exact induction ensures
  | await operation resume induction =>
      intro later interferes
      refine ⟨(ensures later interferes).1, ?_⟩
      intro choice reply after answered
      exact induction reply ((ensures later interferes).2 choice reply after answered)

theorem tryCatch {body : Coroutine State Op Reply Error Result}
    {handler : Error → Coroutine State Op Reply Error Result}
    {post : Except Error Result → State → Prop} {state : State}
    (ensures : body.Ensures environment interference invariant
      (fun outcome later => match outcome with
        | .ok value => post (.ok value) later
        | .error error => (handler error).Ensures environment interference invariant post later)
      state) :
    (tryCatch body handler).Ensures environment interference invariant post state := by
  induction body generalizing state with
  | done outcome =>
      cases outcome with
      | ok value => exact ensures
      | error error => exact (ensures state (interference.refl state)).2
  | inspect next induction => exact induction state ensures
  | update transform next induction => exact induction ensures
  | await operation resume induction =>
      intro later interferes
      refine ⟨(ensures later interferes).1, ?_⟩
      intro choice reply after answered
      exact induction reply ((ensures later interferes).2 choice reply after answered)

theorem tryFinally {body : Coroutine State Op Reply Error Result}
    {cleanup : Coroutine State Op Reply Error Unit}
    {post : Except Error Result → State → Prop} {state : State}
    (ensures : body.Ensures environment interference invariant
      (fun outcome later => cleanup.Ensures environment interference invariant
        (fun cleaned last => match cleaned with
          | .ok _ => post outcome last
          | .error error => post (.error error) last) later) state) :
    (tryFinally body cleanup).Ensures environment interference invariant post state := by
  refine bind (tryCatch (bind (ensures.closed.weaken ?_)))
  intro outcome later cleans
  have cleansUp : ∀ caught : Except Error Result, caught = outcome →
      ∀ last, interference.Allows later last → invariant last ∧
        (cleanup >>= fun _ => match caught with
          | .ok value => pure value
          | .error error => throw error).Ensures environment interference invariant post last := by
    intro caught same last interferes
    subst same
    refine ⟨(cleans last interferes).1, bind ((cleans last interferes).2.closed.weaken ?_)⟩
    intro cleaned final holds
    cases cleaned with
    | ok _ => cases caught <;> exact holds
    | error error => exact (holds final (interference.refl final)).2
  cases outcome with
  | ok value => exact cleansUp _ rfl
  | error error => exact cleansUp _ rfl

end Ensures

/-- What `Ensures` says of a task that has come to rest at a suspension point
or at its end. -/
def Rests (environment : Environment State Op Reply Error Background Choice)
    (interference : Interference State) (invariant : State → Prop)
    (post : Except Error Result → State → Prop)
    (task : Task State Op Reply Error Result) : Prop :=
  ∀ later, interference.Allows task.state later → invariant later ∧
    match task.code with
    | .done outcome => post outcome later
    | .await operation resume => ∀ choice reply after,
        environment.answer operation choice later = some (reply, after) →
          (resume reply).Ensures environment interference invariant post after
    | _ => False

section Adequacy

variable {post : Except Error Result → State → Prop}

theorem Ensures.settle {code : Coroutine State Op Reply Error Result} {state : State}
    (ensures : code.Ensures environment interference invariant post state) :
    Rests environment interference invariant post (environment.settle code state) := by
  induction code generalizing state with
  | done outcome => exact ensures
  | inspect next induction => exact induction state ensures
  | update transform next induction => exact induction ensures
  | await operation resume induction => exact ensures

theorem Rests.invariant_holds {task : Task State Op Reply Error Result}
    (rests : Rests environment interference invariant post task) : invariant task.state :=
  (rests task.state (interference.refl task.state)).1

theorem Rests.post_holds {outcome : Except Error Result} {state : State}
    (rests : Rests environment interference invariant post ⟨.done outcome, state⟩) :
    post outcome state :=
  (rests state (interference.refl state)).2

theorem Rests.step {task next : Task State Op Reply Error Result}
    {event : Event Background Choice}
    (rests : Rests environment interference invariant post task)
    (interferes : ∀ action, event = .background action →
      interference.Allows task.state next.state)
    (stepped : environment.step task event = some next) :
    Rests environment interference invariant post next := by
  cases event with
  | background action =>
      have moved := interferes action rfl
      have sameCode : next.code = task.code := by
        rcases Option.map_eq_some_iff.mp stepped with ⟨after, _, equal⟩
        rw [← equal]
      intro later interferesLater
      rw [sameCode]
      exact rests later (interference.trans moved interferesLater)
  | resume choice =>
      rcases task with ⟨code, state⟩
      cases code with
      | done outcome => cases stepped
      | inspect next => cases stepped
      | update transform next => cases stepped
      | await operation resume =>
          rcases Option.map_eq_some_iff.mp stepped with ⟨⟨reply, after⟩, answered, equal⟩
          rw [← equal]
          exact ((rests state (interference.refl state)).2 choice reply after answered).settle

/-- Adequacy: a task that `Ensures` its postcondition satisfies the invariant
in every state of every run, and the postcondition when it has finished. -/
theorem Ensures.run_within {admits : State → Prop}
    (interferes : ∀ action state after, environment.background action state = some after →
      admits after → interference.Allows state after)
    {code : Coroutine State Op Reply Error Result} {state : State}
    (ensures : code.Ensures environment interference invariant post state)
    {events : List (Event Background Choice)} {task : Task State Op Reply Error Result}
    (within : environment.StaysWithin admits (environment.settle code state) events)
    (reached : environment.run (environment.settle code state) events = some task) :
    Rests environment interference invariant post task := by
  have start := ensures.settle
  generalize environment.settle code state = first at start within reached
  induction events generalizing first with
  | nil =>
      cases reached
      exact start
  | cons event events induction =>
      rw [Environment.run_cons] at reached
      rcases Option.bind_eq_some_iff.mp reached with ⟨next, stepped, rest⟩
      have admitted := within next stepped
      refine induction next (start.step ?_ stepped) admitted.2 rest
      intro action isBackground
      subst isBackground
      rcases Option.map_eq_some_iff.mp stepped with ⟨after, moved, equal⟩
      subst equal
      exact interferes action _ _ moved admitted.1

theorem Ensures.run
    (interferes : ∀ action state after, environment.background action state = some after →
      interference.Allows state after)
    {code : Coroutine State Op Reply Error Result} {state : State}
    (ensures : code.Ensures environment interference invariant post state)
    {events : List (Event Background Choice)} {task : Task State Op Reply Error Result}
    (reached : environment.run (environment.settle code state) events = some task) :
    Rests environment interference invariant post task :=
  ensures.run_within (fun action before after moved _ => interferes action before after moved)
    (environment.staysWithin_true _ _) reached

end Adequacy

end Coroutine

end Foundation
