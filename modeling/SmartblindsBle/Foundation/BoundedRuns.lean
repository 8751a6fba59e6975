import Mathlib.Algebra.BigOperators.Group.Finset.Piecewise
import SmartblindsBle.Foundation.ProofOutlines

/-! # Bounded runs

How often a task suspends, on what, and how it changes the state can be read off
its code. A pool in which finitely many tasks can move, each with a bound on its
suspensions, has no run longer than the sum of the bounds.
-/

namespace Foundation

variable {Index State Op Error Background Choice Result Value : Type} {Reply : Op → Type}

namespace Coroutine

/-- The task suspends at most `steps` times, on `operations` only, and makes no other
changes than `changes`. -/
def Confined (operations : Op → Prop) (changes : (State → State) → Prop) :
    Coroutine State Op Reply Error Result → Nat → Prop
  | .done _, _ => True
  | .inspect next, steps => ∀ state, Confined operations changes (next state) steps
  | .update transform next, steps => changes transform ∧ Confined operations changes next steps
  | .await operation resume, steps => operations operation ∧
      ∃ rest, steps = rest + 1 ∧ ∀ reply, Confined operations changes (resume reply) rest

namespace Confined

variable {operations : Op → Prop} {changes : (State → State) → Prop}

theorem mono {moreOperations : Op → Prop} {moreChanges : (State → State) → Prop}
    {code : Coroutine State Op Reply Error Result} {steps more : Nat}
    (confined : code.Confined operations changes steps)
    (operates : ∀ operation, operations operation → moreOperations operation)
    (updates : ∀ transform, changes transform → moreChanges transform) (fits : steps ≤ more) :
    code.Confined moreOperations moreChanges more := by
  induction code generalizing steps more with
  | done outcome => trivial
  | inspect next induction => exact fun state => induction state (confined state) fits
  | update transform next induction => exact ⟨updates _ confined.1, induction confined.2 fits⟩
  | await operation resume induction =>
      rcases confined with ⟨allowed, rest, equal, confined⟩
      subst equal
      rcases Nat.exists_eq_add_of_le fits with ⟨spare, equal⟩
      subst equal
      refine ⟨operates _ allowed, rest + spare, by omega, ?_⟩
      intro reply
      exact induction reply (confined reply) (Nat.le_add_right rest spare)

theorem bind {first : Coroutine State Op Reply Error Value}
    {rest : Value → Coroutine State Op Reply Error Result} {firstSteps : Nat}
    (confined : first.Confined operations changes firstSteps) (restSteps : Nat)
    (follows : ∀ value, (rest value).Confined operations changes restSteps) :
    (first >>= rest).Confined operations changes (firstSteps + restSteps) := by
  induction first generalizing firstSteps with
  | done outcome =>
      cases outcome with
      | ok value => exact (follows value).mono (fun _ => id) (fun _ => id) (Nat.le_add_left ..)
      | error error => trivial
  | inspect next induction => exact fun state => induction state (confined state)
  | update transform next induction => exact ⟨confined.1, induction confined.2⟩
  | await operation resume induction =>
      rcases confined with ⟨allowed, left, equal, confined⟩
      subst equal
      refine ⟨allowed, left + restSteps, by omega, ?_⟩
      intro reply
      exact induction reply (confined reply)

theorem tryCatch {body : Coroutine State Op Reply Error Result}
    {handler : Error → Coroutine State Op Reply Error Result} {bodySteps handlerSteps : Nat}
    (confined : body.Confined operations changes bodySteps)
    (handles : ∀ error, (handler error).Confined operations changes handlerSteps) :
    (tryCatch body handler).Confined operations changes (bodySteps + handlerSteps) := by
  induction body generalizing bodySteps with
  | done outcome =>
      cases outcome with
      | ok value => trivial
      | error error => exact (handles error).mono (fun _ => id) (fun _ => id) (Nat.le_add_left ..)
  | inspect next induction => exact fun state => induction state (confined state)
  | update transform next induction => exact ⟨confined.1, induction confined.2⟩
  | await operation resume induction =>
      rcases confined with ⟨allowed, left, equal, confined⟩
      subst equal
      refine ⟨allowed, left + handlerSteps, by omega, ?_⟩
      intro reply
      exact induction reply (confined reply)

theorem tryFinally {body : Coroutine State Op Reply Error Result}
    {cleanup : Coroutine State Op Reply Error Unit} {bodySteps cleanupSteps : Nat}
    (confined : body.Confined operations changes bodySteps)
    (cleans : cleanup.Confined operations changes cleanupSteps) :
    (tryFinally body cleanup).Confined operations changes (bodySteps + cleanupSteps) := by
  have returns : Confined operations changes (do
      let value ← body
      pure (Except.ok value) : Coroutine State Op Reply Error (Except Error Result))
      (bodySteps + 0) := confined.bind 0 fun _ => trivial
  have attempts : Confined operations changes (MonadExcept.tryCatch (do
      let value ← body
      pure (Except.ok value) : Coroutine State Op Reply Error (Except Error Result))
      fun error => pure (Except.error error)) (bodySteps + 0 + 0) :=
    returns.tryCatch fun _ => trivial
  have ends (outcome : Except Error Result) : Confined operations changes
      (Coroutine.done outcome : Coroutine State Op Reply Error Result) 0 := trivial
  apply attempts.bind
  intro outcome
  cases outcome with
  | ok value => exact cleans.bind 0 fun _ => ends (.ok value)
  | error error => exact cleans.bind 0 fun _ => ends (.error error)

theorem perform {operation : Op} (allowed : operations operation) :
    (Coroutine.perform operation : Coroutine State Op Reply Error (Reply operation)).Confined
      operations changes 1 :=
  ⟨allowed, 0, rfl, fun _ => trivial⟩

theorem modify {transform : State → State} (allowed : changes transform) :
    (Coroutine.modify transform : Coroutine State Op Reply Error Unit).Confined operations
      changes 0 :=
  ⟨allowed, trivial⟩

/-- A stage that all operations and changes keep is kept by the task. -/
theorem meets {environment : Environment State Op Reply Error Background Choice}
    {outline : Outline State Op} {code : Coroutine State Op Reply Error Result} {steps : Nat}
    {stage : State → Prop} (confined : code.Confined operations changes steps)
    (updates : ∀ transform, changes transform → ∀ state, stage state →
      outline.guarantee.Allows state (transform state) ∧ stage (transform state))
    (performs : ∀ operation, operations operation →
      (Coroutine.perform operation : Coroutine State Op Reply Error (Reply operation)).Meets
        environment outline stage fun _ => stage) :
    code.Meets environment outline stage fun _ => stage := by
  induction code generalizing steps with
  | done outcome => exact fun _ holds => holds
  | inspect next induction =>
      intro state holds
      exact induction state (confined state) state holds
  | update transform next induction =>
      intro state holds
      rcases updates transform confined.1 state holds with ⟨moved, kept⟩
      exact ⟨moved, induction confined.2 _ kept⟩
  | await operation resume induction =>
      rcases confined with ⟨allowed, rest, _, confined⟩
      intro state holds
      rcases performs operation allowed state holds with ⟨entered, suspended⟩
      refine ⟨entered, ?_⟩
      intro later relied
      rcases suspended later relied with ⟨during, answers⟩
      refine ⟨during, ?_⟩
      intro choice reply after answered
      rcases answers choice reply after answered with ⟨moved, kept⟩
      exact ⟨moved, induction reply (confined reply) after kept⟩

theorem settle {environment : Environment State Op Reply Error Background Choice}
    {code : Coroutine State Op Reply Error Result} {steps : Nat}
    (confined : code.Confined operations changes steps) (state : State) :
    (environment.settle code state).code.Confined operations changes steps := by
  induction code generalizing state with
  | done outcome => exact confined
  | inspect next induction => exact induction state (confined state) state
  | update transform next induction => exact induction confined.2 (transform state)
  | await operation resume induction => exact confined

theorem step {environment : Environment State Op Reply Error Background Choice}
    {task next : Task State Op Reply Error Result} {choice : Choice} {steps : Nat}
    (confined : task.code.Confined operations changes steps)
    (stepped : environment.step task (.resume choice) = some next) :
    ∃ rest, steps = rest + 1 ∧ next.code.Confined operations changes rest := by
  rcases task with ⟨code, state⟩
  cases code with
  | await operation resume =>
      rcases confined with ⟨_, rest, equal, confined⟩
      rcases Option.map_eq_some_iff.mp stepped with ⟨⟨reply, after⟩, _, settled⟩
      refine ⟨rest, equal, ?_⟩
      rw [← settled]
      exact (confined reply).settle after
  | _ => cases stepped

end Confined

end Coroutine

/-! ## Pools -/

namespace Pool

variable [DecidableEq Index]
variable {environment : PoolEnvironment Index State Op Reply Error Background Choice}

theorem run_append (pool : Pool Index State Op Reply Error Result)
    (first second : List (PoolEvent Index Background Choice)) :
    pool.run environment (first ++ second) =
      (pool.run environment first).bind (run environment · second) := by
  induction first generalizing pool with
  | nil => rfl
  | cons event events induction =>
      rw [List.cons_append, run, run, Option.bind_assoc]
      exact Option.bind_congr fun next _ => induction next

theorem run_concat {pool middle last : Pool Index State Op Reply Error Result}
    {events : List (PoolEvent Index Background Choice)}
    {event : PoolEvent Index Background Choice}
    (reached : pool.run environment events = some middle)
    (stepped : middle.step environment event = some last) :
    pool.run environment (events ++ [event]) = some last := by
  rw [run_append, reached, Option.bind_some, run, stepped]
  rfl

theorem exists_stepped {pool last : Pool Index State Op Reply Error Result}
    {events : List (PoolEvent Index Background Choice)}
    {event : PoolEvent Index Background Choice} (taken : event ∈ events)
    (reached : pool.run environment events = some last) :
    ∃ earlier middle next, pool.run environment earlier = some middle ∧
      middle.step environment event = some next := by
  rcases List.append_of_mem taken with ⟨earlier, later, rfl⟩
  rw [run_append] at reached
  rcases Option.bind_eq_some_iff.mp reached with ⟨middle, before, after⟩
  rcases Option.bind_eq_some_iff.mp after with ⟨next, stepped, _⟩
  exact ⟨earlier, middle, next, before, stepped⟩

/-- A run is no longer than the bounds of the tasks that it resumes allow. -/
theorem length_le_sum [IsEmpty Background] {operations : Op → Prop}
    {changes : (State → State) → Prop} {pool last : Pool Index State Op Reply Error Result}
    {events : List (PoolEvent Index Background Choice)} {moving : Finset Index}
    {bound : Index → Nat}
    (confined : ∀ index ∈ moving, (pool.codes index).Confined operations changes (bound index))
    (moves : ∀ index choice, .resume index choice ∈ events → index ∈ moving)
    (reached : pool.run environment events = some last) :
    events.length ≤ ∑ index ∈ moving, bound index := by
  induction events generalizing pool bound with
  | nil => exact Nat.zero_le _
  | cons event events induction =>
      rcases Option.bind_eq_some_iff.mp reached with ⟨next, stepped, rest⟩
      cases event with
      | background action => exact isEmptyElim action
      | resume index choice =>
          have member := moves index choice (List.mem_cons_self ..)
          rcases Option.map_eq_some_iff.mp stepped with ⟨task, moved, equal⟩
          subst equal
          rcases (confined index member).step moved with ⟨left, uses, goesOn⟩
          have shorter := @induction (pool.put index task) (Function.update bound index left)
            (by
              intro other inside
              by_cases same : other = index
              · subst same
                rw [put_codes_self, Function.update_self]
                exact goesOn
              · rw [put_codes_other _ _ same, Function.update_of_ne same]
                exact confined other inside)
            (fun other taken inside => moves other taken (List.mem_cons_of_mem _ inside)) rest
          rw [Finset.sum_update_of_mem member] at shorter
          rw [Finset.sum_eq_add_sum_sdiff_singleton_of_mem member, uses, List.length_cons]
          omega

end Pool

end Foundation
