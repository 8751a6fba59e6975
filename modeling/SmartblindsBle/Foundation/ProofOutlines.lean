import SmartblindsBle.Foundation.Pools

/-! # Proof outlines

An `Outline` of a task says what it relies on and what it guarantees, as in
rely-guarantee reasoning, and also what holds wherever it stands: while it is
suspended on an operation, and after its end. What holds there in every state of
every run is what arguments about progress and mutual exclusion start from.
-/

namespace Foundation

variable {Index State Op Error Background Choice Result Value : Type} {Reply : Op → Type}

/-- What is claimed of a task. The others cannot break what holds after its end. -/
structure Outline (State Op : Type) where
  rely : Interference State
  guarantee : Interference State
  during : Op → State → Prop
  ended : State → Prop
  endedStable : ∀ before after, rely.Allows before after → ended before → ended after

namespace Coroutine

/-- The operation on which a task is suspended. -/
def suspendedOn? : Coroutine State Op Reply Error Result → Option Op
  | .await operation _ => some operation
  | _ => none

/-- Every move of the task is within its guarantee, `during` holds wherever it is
suspended, and it ends as `post` says. -/
def Obeys (environment : Environment State Op Reply Error Background Choice)
    (outline : Outline State Op) (post : Except Error Result → State → Prop) :
    Coroutine State Op Reply Error Result → State → Prop
  | .done outcome, state => post outcome state
  | .inspect next, state => Obeys environment outline post (next state) state
  | .update transform next, state =>
      outline.guarantee.Allows state (transform state) ∧
        Obeys environment outline post next (transform state)
  | .await operation resume, state =>
      outline.guarantee.Allows state (environment.enter operation state) ∧
      ∀ later, outline.rely.Allows (environment.enter operation state) later →
        outline.during operation later ∧
        ∀ choice reply after, environment.answer operation choice later = some (reply, after) →
          outline.guarantee.Allows later after ∧
            Obeys environment outline post (resume reply) after

/-- What `Obeys` says of a task that stands at a suspension or at its end. -/
def Stands (environment : Environment State Op Reply Error Background Choice)
    (outline : Outline State Op) :
    Coroutine State Op Reply Error Result → State → Prop
  | .done _, state => outline.ended state
  | .await operation resume, state =>
      ∀ later, outline.rely.Allows state later →
        outline.during operation later ∧
        ∀ choice reply after, environment.answer operation choice later = some (reply, after) →
          outline.guarantee.Allows later after ∧
            Obeys environment outline (fun _ => outline.ended) (resume reply) after
  | _, _ => False

variable {environment : Environment State Op Reply Error Background Choice}
variable {outline : Outline State Op}

namespace Obeys

variable {post : Except Error Result → State → Prop}

theorem weaken {stronger : Except Error Result → State → Prop}
    {code : Coroutine State Op Reply Error Result} {state : State}
    (obeys : code.Obeys environment outline stronger state)
    (implies : ∀ outcome later, stronger outcome later → post outcome later) :
    code.Obeys environment outline post state := by
  induction code generalizing state with
  | done outcome => exact implies outcome state obeys
  | inspect next induction => exact induction state obeys
  | update transform next induction => exact ⟨obeys.1, induction obeys.2⟩
  | await operation resume induction =>
      refine ⟨obeys.1, ?_⟩
      intro later allowed
      refine ⟨(obeys.2 later allowed).1, ?_⟩
      intro choice reply after answered
      rcases (obeys.2 later allowed).2 choice reply after answered with ⟨moved, goesOn⟩
      exact ⟨moved, induction reply goesOn⟩

theorem bind {first : Coroutine State Op Reply Error Value}
    {rest : Value → Coroutine State Op Reply Error Result} {state : State}
    (obeys : first.Obeys environment outline (fun outcome later => match outcome with
      | .ok value => (rest value).Obeys environment outline post later
      | .error error => post (.error error) later) state) :
    (first >>= rest).Obeys environment outline post state := by
  induction first generalizing state with
  | done outcome => cases outcome <;> exact obeys
  | inspect next induction => exact induction state obeys
  | update transform next induction => exact ⟨obeys.1, induction obeys.2⟩
  | await operation resume induction =>
      refine ⟨obeys.1, ?_⟩
      intro later allowed
      refine ⟨(obeys.2 later allowed).1, ?_⟩
      intro choice reply after answered
      rcases (obeys.2 later allowed).2 choice reply after answered with ⟨moved, goesOn⟩
      exact ⟨moved, induction reply goesOn⟩

theorem tryCatch {body : Coroutine State Op Reply Error Result}
    {handler : Error → Coroutine State Op Reply Error Result} {state : State}
    (obeys : body.Obeys environment outline (fun outcome later => match outcome with
      | .ok value => post (.ok value) later
      | .error error => (handler error).Obeys environment outline post later) state) :
    (tryCatch body handler).Obeys environment outline post state := by
  induction body generalizing state with
  | done outcome => cases outcome <;> exact obeys
  | inspect next induction => exact induction state obeys
  | update transform next induction => exact ⟨obeys.1, induction obeys.2⟩
  | await operation resume induction =>
      refine ⟨obeys.1, ?_⟩
      intro later allowed
      refine ⟨(obeys.2 later allowed).1, ?_⟩
      intro choice reply after answered
      rcases (obeys.2 later allowed).2 choice reply after answered with ⟨moved, goesOn⟩
      exact ⟨moved, induction reply goesOn⟩

theorem settle {code : Coroutine State Op Reply Error Result} {origin state : State}
    (obeys : code.Obeys environment outline (fun _ => outline.ended) state)
    (moved : outline.guarantee.Allows origin state) :
    outline.guarantee.Allows origin (environment.settle code state).state ∧
      (environment.settle code state).code.Stands environment outline
        (environment.settle code state).state := by
  induction code generalizing state with
  | done outcome => exact ⟨moved, obeys⟩
  | inspect next induction => exact induction state obeys moved
  | update transform next induction =>
      exact induction obeys.2 (outline.guarantee.trans moved obeys.1)
  | await operation resume induction =>
      exact ⟨outline.guarantee.trans moved obeys.1, obeys.2⟩

end Obeys

/-! ## Where a task stands -/

namespace Stands

theorem relied {code : Coroutine State Op Reply Error Result} {state later : State}
    (stands : code.Stands environment outline state) (allowed : outline.rely.Allows state later) :
    code.Stands environment outline later := by
  cases code with
  | done outcome => exact outline.endedStable state later allowed stands
  | inspect next => exact stands.elim
  | update transform next => exact stands.elim
  | await operation resume =>
      intro last allowedLater
      exact stands last (outline.rely.trans allowed allowedLater)

theorem step {task next : Task State Op Reply Error Result} {choice : Choice}
    (stands : task.code.Stands environment outline task.state)
    (stepped : environment.step task (.resume choice) = some next) :
    outline.guarantee.Allows task.state next.state ∧
      next.code.Stands environment outline next.state := by
  rcases task with ⟨code, state⟩
  cases code with
  | done outcome => cases stepped
  | inspect next => cases stepped
  | update transform next => cases stepped
  | await operation resume =>
      rcases Option.map_eq_some_iff.mp stepped with ⟨⟨reply, after⟩, answered, equal⟩
      rw [← equal]
      rcases (stands state (outline.rely.refl state)).2 choice reply after answered with
        ⟨moved, goesOn⟩
      exact goesOn.settle moved

/-- A task that runs alone stands where every run leads it, if it relies on nothing that the
background breaks. -/
theorem run {task last : Task State Op Reply Error Result} {events : List (Event Background Choice)}
    (stands : task.code.Stands environment outline task.state)
    (reliesOnBackground : ∀ action before after, environment.background action before = some after →
      outline.rely.Allows before after)
    (reached : environment.run task events = some last) :
    last.code.Stands environment outline last.state := by
  induction events generalizing task with
  | nil =>
      cases reached
      exact stands
  | cons event events induction =>
      rw [Environment.run_cons] at reached
      rcases Option.bind_eq_some_iff.mp reached with ⟨next, stepped, rest⟩
      cases event with
      | background action =>
          rcases Option.map_eq_some_iff.mp stepped with ⟨after, moved, equal⟩
          subst equal
          apply induction _ rest
          exact stands.relied (reliesOnBackground action _ _ moved)
      | resume choice => exact induction (stands.step stepped).2 rest

theorem position {code : Coroutine State Op Reply Error Result} {state : State}
    (stands : code.Stands environment outline state) :
    (∃ outcome, code = .done outcome ∧ outline.ended state) ∨
      ∃ operation, code.suspendedOn? = some operation ∧ outline.during operation state := by
  cases code with
  | done outcome => exact .inl ⟨outcome, rfl, stands⟩
  | inspect next => exact stands.elim
  | update transform next => exact stands.elim
  | await operation resume =>
      exact .inr ⟨operation, rfl, (stands state (outline.rely.refl state)).1⟩

end Stands

/-! ## Triples -/

/-- Started where `pre` holds, the task obeys its outline and ends as `post` says. -/
def Meets (environment : Environment State Op Reply Error Background Choice)
    (outline : Outline State Op) (pre : State → Prop)
    (code : Coroutine State Op Reply Error Result) (post : Except Error Result → State → Prop) :
    Prop :=
  ∀ state, pre state → code.Obeys environment outline post state

namespace Meets

variable {pre : State → Prop} {post : Except Error Result → State → Prop}

theorem weaken {stronger : Except Error Result → State → Prop}
    {code : Coroutine State Op Reply Error Result}
    (meets : code.Meets environment outline pre stronger)
    (implies : ∀ outcome state, stronger outcome state → post outcome state) :
    code.Meets environment outline pre post :=
  fun state holds => (meets state holds).weaken implies

theorem only {stronger : State → Prop} {code : Coroutine State Op Reply Error Result}
    (meets : code.Meets environment outline pre post)
    (implies : ∀ state, stronger state → pre state) :
    code.Meets environment outline stronger post :=
  fun state holds => meets state (implies state holds)

theorem bind {middle : Except Error Value → State → Prop}
    {first : Coroutine State Op Reply Error Value}
    {rest : Value → Coroutine State Op Reply Error Result}
    (meets : first.Meets environment outline pre middle)
    (continues : ∀ value, (rest value).Meets environment outline (middle (.ok value)) post)
    (raises : ∀ error state, middle (.error error) state → post (.error error) state) :
    (first >>= rest).Meets environment outline pre post := by
  intro state holds
  apply Obeys.bind
  apply (meets state holds).weaken
  intro outcome later ends
  cases outcome with
  | ok value => exact continues value later ends
  | error error => exact raises error later ends

theorem tryCatch {middle : Except Error Result → State → Prop}
    {body : Coroutine State Op Reply Error Result}
    {handler : Error → Coroutine State Op Reply Error Result}
    (meets : body.Meets environment outline pre middle)
    (returns : ∀ value state, middle (.ok value) state → post (.ok value) state)
    (handles : ∀ error, (handler error).Meets environment outline (middle (.error error)) post) :
    (tryCatch body handler).Meets environment outline pre post := by
  intro state holds
  apply Obeys.tryCatch
  apply (meets state holds).weaken
  intro outcome later ends
  cases outcome with
  | ok value => exact returns value later ends
  | error error => exact handles error later ends

theorem tryFinally {middle last : State → Prop} {body : Coroutine State Op Reply Error Result}
    {cleanup : Coroutine State Op Reply Error Unit}
    (meets : body.Meets environment outline pre fun _ => middle)
    (cleans : cleanup.Meets environment outline middle fun _ => last) :
    (tryFinally body cleanup).Meets environment outline pre fun _ => last := by
  have returns : Meets environment outline pre (do let value ← body; pure (.ok value))
      fun _ : Except Error (Except Error Result) => middle :=
    bind meets (fun _ _ holds => holds) fun _ _ holds => holds
  have attempts : Meets environment outline pre
      (MonadExcept.tryCatch (do let value ← body; pure (.ok value)) fun error =>
        pure (.error error)) fun (caught : Except Error (Except Error Result)) state =>
          (∃ outcome, caught = .ok outcome) ∧ middle state :=
    tryCatch returns (fun outcome _ holds => ⟨⟨outcome, rfl⟩, holds⟩)
      fun error _ holds => ⟨⟨.error error, rfl⟩, holds⟩
  apply bind attempts
  · intro outcome
    apply bind (cleans.only fun _ holds => holds.2)
    · intro _
      cases outcome with
      | ok value => exact fun _ holds => holds
      | error error => exact fun _ holds => holds
    · exact fun _ _ holds => holds
  · rintro error state ⟨⟨outcome, impossible⟩, _⟩
    cases impossible

theorem modify {transform : State → State} {post : Except Error Unit → State → Prop}
    (moves : ∀ state, pre state →
      outline.guarantee.Allows state (transform state) ∧ post (.ok ()) (transform state)) :
    (Coroutine.modify transform : Coroutine State Op Reply Error Unit).Meets environment outline
      pre post :=
  moves

theorem perform {operation : Op} {holding : State → Prop}
    {post : Except Error (Reply operation) → State → Prop}
    (enters : ∀ state, pre state →
      outline.guarantee.Allows state (environment.enter operation state) ∧
        holding (environment.enter operation state))
    (stable : ∀ state later, holding state → outline.rely.Allows state later → holding later)
    (suspended : ∀ later, holding later → outline.during operation later)
    (answers : ∀ later choice reply after, holding later →
      environment.answer operation choice later = some (reply, after) →
        outline.guarantee.Allows later after ∧ post reply after) :
    (Coroutine.perform operation : Coroutine State Op Reply Error (Reply operation)).Meets
      environment outline pre post := by
  intro state holds
  rcases enters state holds with ⟨allowed, entered⟩
  refine ⟨allowed, ?_⟩
  intro later relied
  have held := stable _ later entered relied
  exact ⟨suspended later held, fun choice reply after answered =>
    answers later choice reply after held answered⟩

theorem settle {code : Coroutine State Op Reply Error Result} {state : State}
    (meets : code.Meets environment outline pre fun _ => outline.ended) (holds : pre state) :
    (environment.settle code state).code.Stands environment outline
      (environment.settle code state).state :=
  ((meets state holds).settle (outline.guarantee.refl state)).2

end Meets

end Coroutine

/-! ## Adequacy -/

namespace Pool

variable [DecidableEq Index]
variable {environment : PoolEnvironment Index State Op Reply Error Background Choice}
variable {outline : Index → Outline State Op}

theorem exists_step {pool : Pool Index State Op Reply Error Result} {index : Index}
    {operation : Op} {choice : Choice} {reply : Except Error (Reply operation)} {after : State}
    (suspended : (pool.codes index).suspendedOn? = some operation)
    (answered : environment.answer index operation choice pool.state = some (reply, after)) :
    ∃ next, pool.step environment (.resume index choice) = some next := by
  cases code : pool.codes index with
  | await awaited resume =>
      rw [code] at suspended
      cases suspended
      refine ⟨pool.put index ((environment.view index).settle (resume reply) after), ?_⟩
      rw [Pool.step, Pool.task, code, Environment.step_resume]
      change Option.map _ (Option.map _ (environment.answer index operation choice pool.state)) = _
      rw [answered]
      rfl
  | _ =>
      rw [code] at suspended
      cases suspended

theorem step_answered {pool next : Pool Index State Op Reply Error Result} {index : Index}
    {choice : Choice} (stepped : pool.step environment (.resume index choice) = some next) :
    ∃ operation reply after, (pool.codes index).suspendedOn? = some operation ∧
      environment.answer index operation choice pool.state = some (reply, after) := by
  rcases Option.map_eq_some_iff.mp stepped with ⟨task, moved, _⟩
  rw [Pool.task] at moved
  cases code : pool.codes index with
  | await operation resume =>
      rw [code, Environment.step_resume] at moved
      rcases Option.map_eq_some_iff.mp moved with ⟨⟨reply, after⟩, answered, _⟩
      exact ⟨operation, reply, after, rfl, answered⟩
  | _ =>
      rw [code] at moved
      cases moved

/-- Every task of the pool stands where its outline lets it stand. -/
def AllStand (environment : PoolEnvironment Index State Op Reply Error Background Choice)
    (outline : Index → Outline State Op) (pool : Pool Index State Op Reply Error Result) : Prop :=
  ∀ index, (pool.codes index).Stands (environment.view index) (outline index) pool.state

/-- Every pool that a run reaches satisfies its tasks' outlines. -/
theorem AllStand.run
    (relies : ∀ index other, other ≠ index → ∀ before after,
      (outline other).guarantee.Allows before after → (outline index).rely.Allows before after)
    (reliesOnBackground : ∀ index action before after,
      environment.background action before = some after →
        (outline index).rely.Allows before after)
    {pool last : Pool Index State Op Reply Error Result}
    {events : List (PoolEvent Index Background Choice)}
    (stand : AllStand environment outline pool)
    (reached : pool.run environment events = some last) : AllStand environment outline last := by
  induction events generalizing pool with
  | nil =>
      cases reached
      exact stand
  | cons event events induction =>
      rcases Option.bind_eq_some_iff.mp reached with ⟨next, stepped, rest⟩
      cases event with
      | background action =>
          rcases Option.map_eq_some_iff.mp stepped with ⟨after, moved, equal⟩
          subst equal
          apply induction _ rest
          intro index
          exact (stand index).relied (reliesOnBackground index action _ _ moved)
      | resume index choice =>
          rcases Option.map_eq_some_iff.mp stepped with ⟨task, moved, equal⟩
          subst equal
          have ended := (stand index).step moved
          apply induction _ rest
          intro other
          by_cases same : other = index
          · subst same
            rw [put_codes_self]
            exact ended.2
          · rw [put_codes_other _ _ same]
            exact (stand other).relied (relies other index (Ne.symm same) _ _ ended.1)

end Pool

end Foundation
