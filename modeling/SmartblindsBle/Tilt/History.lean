import SmartblindsBle.Foundation.Traces
import SmartblindsBle.Tilt.SessionBehaviour

/-! # Properties of histories

Safety properties of the client say which chunks may be handed to the BLE
client after which actions. They are proved along the views of the caller's
task, one action at a time.
-/

namespace SmartblindsBle

open Foundation

/-! ## Parts of a history -/

/-- The actions since the last session object was created. -/
def sinceSession (history : List Action) : List Action :=
  history.foldl (fun session action =>
    if action = .sessionCreated then [] else session ++ [action]) []

def Action.receivedFrame? : Action → Option Bytes
  | .received frame => some frame
  | _ => none

/-- The messages that the caller's task took from the response queue. -/
def receivedFrames (history : List Action) : List Bytes :=
  history.filterMap Action.receivedFrame?

theorem sinceSession_append (history : List Action) {actions : List Action}
    (sameSession : .sessionCreated ∉ actions) :
    sinceSession (history ++ actions) = sinceSession history ++ actions := by
  induction actions generalizing history with
  | nil => simp
  | cons action actions induction =>
      simp only [List.mem_cons, not_or] at sameSession
      have one : sinceSession (history ++ [action]) = sinceSession history ++ [action] := by
        simp [sinceSession, Ne.symm sameSession.1]
      rw [List.append_cons, induction _ sameSession.2, one, List.append_assoc]
      rfl

@[simp] theorem sinceSession_created (history : List Action) :
    sinceSession (history ++ [.sessionCreated]) = [] := by
  simp [sinceSession]

@[simp] theorem receivedFrames_append (before after : List Action) :
    receivedFrames (before ++ after) = receivedFrames before ++ receivedFrames after :=
  List.filterMap_append

/-- The current public call and the actions since it began. -/
def currentCall (history : List Action) : Option (ClientCall × List Action) :=
  history.foldl (fun current action =>
    match action with
    | .called call => some (call, [])
    | other => current.map fun (call, actions) => (call, actions ++ [other])) none

def Action.statusOutcome? : Action → Option (Raises ShadeStatus)
  | .statusRead outcome => some outcome
  | _ => none

/-- The outcomes of the calls of the session's `read_status`. -/
def statusReads (actions : List Action) : List (Raises ShadeStatus) :=
  actions.filterMap Action.statusOutcome?

/-- The notes on how calls on the session ended. -/
def callOutcomes (actions : List Action) : List Action := actions.filter Action.isCallOutcome

@[simp] theorem callOutcomes_append (before after : List Action) :
    callOutcomes (before ++ after) = callOutcomes before ++ callOutcomes after :=
  List.filter_append _ _

@[simp] theorem currentCall_called (history : List Action) (call : ClientCall) :
    currentCall (history ++ [.called call]) = some (call, []) := by
  simp [currentCall]

theorem currentCall_append (history : List Action) {action : Action}
    (notCall : ∀ call, action ≠ .called call) :
    currentCall (history ++ [action]) =
      (currentCall history).map fun (call, actions) => (call, actions ++ [action]) := by
  rw [currentCall, List.foldl_append]
  cases action with
  | called call => exact absurd rfl (notCall call)
  | _ => rfl

@[simp] theorem statusReads_append (before after : List Action) :
    statusReads (before ++ after) = statusReads before ++ statusReads after :=
  List.filterMap_append

/-! ## What may be handed out -/

/-- Every chunk that was handed out was allowed by what came before. -/
def EveryHanded (allowed : List Action → Bytes → Prop) (history : List Action) : Prop :=
  EveryEntry (fun before action => ∀ chunk, action = .handed chunk → allowed before chunk) history

variable {allowed : List Action → Bytes → Prop} {history : List Action}

theorem everyHanded_nil : EveryHanded allowed [] := EveryEntry.nil

theorem EveryHanded.append (every : EveryHanded allowed history) {action : Action}
    (next : ∀ chunk, action = .handed chunk → allowed history chunk) :
    EveryHanded allowed (history ++ [action]) := EveryEntry.concat every next

theorem EveryHanded.append_other (every : EveryHanded allowed history) {action : Action}
    (notHanded : ∀ chunk, action ≠ .handed chunk) : EveryHanded allowed (history ++ [action]) :=
  every.append fun chunk isHanded => absurd isHanded (notHanded chunk)

/-! ## Invariants along the methods of a session -/

theorem Sending.preserves (invariant : CallerView → Prop) {frame : Bytes} {attempts : Nat}
    {start later : CallerView} (sends : Sending frame attempts start later)
    (holds : invariant start)
    (hand : ∀ copies < attempts, invariant (start.hand (start.chunkOf frame) copies) →
      invariant ((start.hand (start.chunkOf frame) copies).record
        (.handed (start.chunkOf frame))))
    (confirm : ∀ view, invariant view → invariant view.confirm)
    (receive : ∀ view reply, invariant view → invariant (view.record (.received reply))) :
    invariant later := by
  have handed : ∀ copies ≤ attempts, invariant (start.hand (start.chunkOf frame) copies) := by
    intro copies bound
    induction copies with
    | zero => rwa [CallerView.hand_zero]
    | succ copies induction =>
        rw [← CallerView.hand_succ]
        exact hand copies bound (induction (by omega))
  cases sends with
  | handing copies bound => exact handed copies bound
  | confirmed copies positive bound => exact confirm _ (handed copies bound)
  | received copies positive bound reply =>
      exact receive _ _ (confirm _ (handed copies bound))

end SmartblindsBle
