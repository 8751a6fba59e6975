import Mathlib.Logic.Function.Basic
import SmartblindsBle.Foundation.CoroutineRuns

/-! # Pools of coroutines

Several tasks share one event loop and one state. A run resumes one of them at
a time. `Coroutine.Upholds` is the rely-guarantee rule for a task of a pool: it
is computed on the code of the task alone and says what every stretch of the
task, from one suspension point to the next, does to the shared state.
-/

namespace Foundation

/-- The surroundings of the tasks of a pool; operations may depend on the task
that awaits them. -/
structure PoolEnvironment (Index State Op : Type) (Reply : Op → Type)
    (Error Background Choice : Type) where
  enter : Index → Op → State → State
  background : Background → State → Option State
  answer : Index → (operation : Op) → Choice → State →
    Option (Except Error (Reply operation) × State)

/-- The rests of the tasks together with the state they share. -/
structure Pool (Index State Op : Type) (Reply : Op → Type) (Error Result : Type) where
  codes : Index → Coroutine State Op Reply Error Result
  state : State

/-- One scheduling decision: a step of the surroundings, or a task is resumed. -/
inductive PoolEvent (Index Background Choice : Type) where
  | background (action : Background)
  | resume (index : Index) (choice : Choice)

variable {Index State Op Error Background Choice Result Value : Type} {Reply : Op → Type}

/-- The pool's environment as one of the tasks meets it. -/
def PoolEnvironment.view
    (environment : PoolEnvironment Index State Op Reply Error Background Choice)
    (index : Index) : Environment State Op Reply Error Background Choice where
  enter := environment.enter index
  background := environment.background
  answer := environment.answer index

namespace Pool

def task (pool : Pool Index State Op Reply Error Result) (index : Index) :
    Task State Op Reply Error Result :=
  ⟨pool.codes index, pool.state⟩

variable [DecidableEq Index]

/-- The pool after one of its tasks has moved. -/
def put (pool : Pool Index State Op Reply Error Result) (index : Index)
    (task : Task State Op Reply Error Result) : Pool Index State Op Reply Error Result :=
  ⟨Function.update pool.codes index task.code, task.state⟩

@[simp] theorem put_state (pool : Pool Index State Op Reply Error Result) (index : Index)
    (task : Task State Op Reply Error Result) : (pool.put index task).state = task.state := rfl

@[simp] theorem put_codes_self (pool : Pool Index State Op Reply Error Result) (index : Index)
    (task : Task State Op Reply Error Result) :
    (pool.put index task).codes index = task.code :=
  Function.update_self ..

theorem put_codes_other (pool : Pool Index State Op Reply Error Result) {index other : Index}
    (task : Task State Op Reply Error Result) (different : other ≠ index) :
    (pool.put index task).codes other = pool.codes other :=
  Function.update_of_ne different ..

variable (environment : PoolEnvironment Index State Op Reply Error Background Choice)

def step (pool : Pool Index State Op Reply Error Result) :
    PoolEvent Index Background Choice → Option (Pool Index State Op Reply Error Result)
  | .background action => (environment.background action pool.state).map (⟨pool.codes, ·⟩)
  | .resume index choice =>
      ((environment.view index).step (pool.task index) (.resume choice)).map (pool.put index)

/-- The pool after a list of scheduling decisions, if each was enabled. -/
def run (pool : Pool Index State Op Reply Error Result) :
    List (PoolEvent Index Background Choice) → Option (Pool Index State Op Reply Error Result)
  | [] => some pool
  | event :: events => (pool.step environment event).bind (run · events)

end Pool

/-! ## The proof rule -/

namespace Coroutine

variable (environment : Environment State Op Reply Error Background Choice)
variable (rely : Interference State) (guarantee : State → State → Prop)

/-- The task was resumed in the state `origin` and has come to `state` since.
Whenever it suspends, what it has done to the state since it was resumed is
within `guarantee`; while it is suspended the other tasks stay within `rely`. -/
def Upholds (post : Except Error Result → State → State → Prop) :
    Coroutine State Op Reply Error Result → State → State → Prop
  | .done outcome, origin, state => post outcome origin state
  | .inspect next, origin, state => Upholds post (next state) origin state
  | .update transform next, origin, state => Upholds post next origin (transform state)
  | .await operation resume, origin, state =>
      guarantee origin (environment.enter operation state) ∧
      ∀ later, rely.Allows (environment.enter operation state) later →
        ∀ choice reply after, environment.answer operation choice later = some (reply, after) →
          Upholds post (resume reply) later after

/-- What `Upholds` says of a task that has come to rest. -/
def Waits : Coroutine State Op Reply Error Result → State → Prop
  | .done _, _ => True
  | .await operation resume, state =>
      ∀ later, rely.Allows state later →
        ∀ choice reply after, environment.answer operation choice later = some (reply, after) →
          (resume reply).Upholds environment rely guarantee (fun _ => guarantee) later after
  | _, _ => False

variable {environment rely guarantee}

namespace Upholds

theorem weaken {post weaker : Except Error Result → State → State → Prop}
    {code : Coroutine State Op Reply Error Result} {origin state : State}
    (upholds : code.Upholds environment rely guarantee post origin state)
    (implies : ∀ outcome first last, post outcome first last → weaker outcome first last) :
    code.Upholds environment rely guarantee weaker origin state := by
  induction code generalizing origin state with
  | done outcome => exact implies outcome origin state upholds
  | inspect next induction => exact induction state upholds
  | update transform next induction => exact induction upholds
  | await operation resume induction =>
      constructor
      · exact upholds.1
      · intro later allowed choice reply after answered
        exact induction reply (upholds.2 later allowed choice reply after answered)

theorem bind {first : Coroutine State Op Reply Error Value}
    {rest : Value → Coroutine State Op Reply Error Result}
    {post : Except Error Result → State → State → Prop} {origin state : State}
    (upholds : first.Upholds environment rely guarantee
      (fun outcome origin state => match outcome with
        | .ok value => (rest value).Upholds environment rely guarantee post origin state
        | .error error => post (.error error) origin state) origin state) :
    (first >>= rest).Upholds environment rely guarantee post origin state := by
  induction first generalizing origin state with
  | done outcome => cases outcome <;> exact upholds
  | inspect next induction => exact induction state upholds
  | update transform next induction => exact induction upholds
  | await operation resume induction =>
      constructor
      · exact upholds.1
      · intro later allowed choice reply after answered
        exact induction reply (upholds.2 later allowed choice reply after answered)

theorem tryCatch {body : Coroutine State Op Reply Error Result}
    {handler : Error → Coroutine State Op Reply Error Result}
    {post : Except Error Result → State → State → Prop} {origin state : State}
    (upholds : body.Upholds environment rely guarantee
      (fun outcome origin state => match outcome with
        | .ok value => post (.ok value) origin state
        | .error error => (handler error).Upholds environment rely guarantee post origin state)
      origin state) :
    (tryCatch body handler).Upholds environment rely guarantee post origin state := by
  induction body generalizing origin state with
  | done outcome => cases outcome <;> exact upholds
  | inspect next induction => exact induction state upholds
  | update transform next induction => exact induction upholds
  | await operation resume induction =>
      constructor
      · exact upholds.1
      · intro later allowed choice reply after answered
        exact induction reply (upholds.2 later allowed choice reply after answered)

theorem tryFinally {body : Coroutine State Op Reply Error Result}
    {cleanup : Coroutine State Op Reply Error Unit}
    {post : Except Error Result → State → State → Prop} {origin state : State}
    (upholds : body.Upholds environment rely guarantee
      (fun outcome origin state => cleanup.Upholds environment rely guarantee
        (fun cleaned origin state => match cleaned with
          | .ok _ => post outcome origin state
          | .error error => post (.error error) origin state) origin state) origin state) :
    (tryFinally body cleanup).Upholds environment rely guarantee post origin state := by
  apply bind
  apply tryCatch
  apply bind
  apply upholds.weaken
  intro outcome first last cleans
  cases outcome with
  | ok value =>
      apply bind
      apply cleans.weaken
      intro cleaned origin state holds
      cases cleaned <;> exact holds
  | error error =>
      apply bind
      apply cleans.weaken
      intro cleaned origin state holds
      cases cleaned <;> exact holds

theorem settle {code : Coroutine State Op Reply Error Result} {origin state : State}
    (upholds : code.Upholds environment rely guarantee (fun _ => guarantee) origin state) :
    guarantee origin (environment.settle code state).state ∧
      (environment.settle code state).code.Waits environment rely guarantee
        (environment.settle code state).state := by
  induction code generalizing state with
  | done outcome => exact ⟨upholds, trivial⟩
  | inspect next induction => exact induction state upholds
  | update transform next induction => exact induction upholds
  | await operation resume induction => exact upholds

end Upholds

theorem Waits.relied {code : Coroutine State Op Reply Error Result} {state later : State}
    (waits : code.Waits environment rely guarantee state) (allowed : rely.Allows state later) :
    code.Waits environment rely guarantee later := by
  cases code with
  | done outcome => trivial
  | inspect next => exact waits.elim
  | update transform next => exact waits.elim
  | await operation resume =>
      intro last allowedLater
      exact waits last (rely.trans allowed allowedLater)

theorem Waits.step {task next : Task State Op Reply Error Result} {choice : Choice}
    (waits : task.code.Waits environment rely guarantee task.state)
    (stepped : environment.step task (.resume choice) = some next) :
    guarantee task.state next.state ∧
      next.code.Waits environment rely guarantee next.state := by
  rcases task with ⟨code, state⟩
  cases code with
  | done outcome => cases stepped
  | inspect next => cases stepped
  | update transform next => cases stepped
  | await operation resume =>
      rcases Option.map_eq_some_iff.mp stepped with ⟨⟨reply, after⟩, answered, equal⟩
      rw [← equal]
      exact (waits state (rely.refl state) choice reply after answered).settle

end Coroutine

/-! ## Adequacy -/

namespace Pool

variable [DecidableEq Index]
variable {environment : PoolEnvironment Index State Op Reply Error Background Choice}
variable {rely : Index → Interference State} {guarantee : Index → State → State → Prop}

/-- Every task of the pool waits, within what it relies on. -/
def AllWait (environment : PoolEnvironment Index State Op Reply Error Background Choice)
    (rely : Index → Interference State) (guarantee : Index → State → State → Prop)
    (pool : Pool Index State Op Reply Error Result) : Prop :=
  ∀ index, (pool.codes index).Waits (environment.view index) (rely index) (guarantee index)
    pool.state

/-- Whatever the tasks guarantee and the surroundings keep holds along a run. -/
theorem AllWait.run {kept : State → Prop}
    (relies : ∀ index other, other ≠ index → ∀ before after,
      guarantee other before after → (rely index).Allows before after)
    (reliesOnBackground : ∀ index action before after,
      environment.background action before = some after → (rely index).Allows before after)
    (keeps : ∀ index before after, guarantee index before after → kept before → kept after)
    (backgroundKeeps : ∀ action before after,
      environment.background action before = some after → kept before → kept after)
    {pool last : Pool Index State Op Reply Error Result}
    {events : List (PoolEvent Index Background Choice)}
    (waits : AllWait environment rely guarantee pool) (holds : kept pool.state)
    (reached : pool.run environment events = some last) :
    AllWait environment rely guarantee last ∧ kept last.state := by
  induction events generalizing pool with
  | nil =>
      cases reached
      exact ⟨waits, holds⟩
  | cons event events induction =>
      rcases Option.bind_eq_some_iff.mp reached with ⟨next, stepped, rest⟩
      cases event with
      | background action =>
          rcases Option.map_eq_some_iff.mp stepped with ⟨after, moved, equal⟩
          subst equal
          apply induction _ (backgroundKeeps action _ _ moved holds) rest
          intro index
          exact (waits index).relied (reliesOnBackground index action _ _ moved)
      | resume index choice =>
          rcases Option.map_eq_some_iff.mp stepped with ⟨task, moved, equal⟩
          subst equal
          have ended := (waits index).step moved
          apply induction _ (keeps index _ _ ended.1 holds) rest
          intro other
          by_cases same : other = index
          · subst same
            rw [put_codes_self]
            exact ended.2
          · rw [put_codes_other _ _ same]
            exact (waits other).relied (relies other index (Ne.symm same) _ _ ended.1)

end Pool

end Foundation
