import SmartblindsBle.Tilt.Movement

/-! # How a position write is reported

Once a SET_POSITION chunk has been handed out, a caller that is told anything
but success or `AmbiguousPositionWrite` may take the shade to be at rest while
it moves.
-/

namespace SmartblindsBle

open Foundation

/-- The result says that a write was issued, or the exception says that it may
have been. -/
def ReportsMovement (outcome : Raises (ShadeStatus × Bool)) : Prop :=
  match outcome with
  | .ok (_, moved) => moved = true
  | .error error => error.isAmbiguousPositionWrite = true

def HandsPosition (primitives : CryptoPrimitives) (key : PairingKey) (actions : List Action) :
    Prop :=
  ∃ chunk, .handed chunk ∈ actions ∧ IsPositionChunk primitives key chunk

/-- The session's `set_position` fails by its time-outs alone, and once it has
returned the readback does not fail. (A BLE client that itself raises
`AmbiguousPositionWrite` is reported, too.) -/
structure FailsByTimeout (actions : List Action) : Prop where
  write : ∀ error, .positionSet (.error error) ∈ actions →
    error.isTiltBleTimeout = true ∨ error.isAmbiguousPositionWrite = true
  readback : ∀ error, [.positionSet (.ok ()), .statusRead (.error error)].Sublist actions →
    error.isAmbiguousPositionWrite = true

/-! ## The outcomes of the calls on a session -/

theorem failsByTimeout_callOutcomes {actions : List Action} :
    FailsByTimeout (callOutcomes actions) ↔ FailsByTimeout actions := by
  constructor
  · intro fails
    refine ⟨fun error member => fails.write error ?_, fun error inOrder =>
      fails.readback error ?_⟩
    · exact List.mem_filter.mpr ⟨member, rfl⟩
    · exact inOrder.filter Action.isCallOutcome
  · intro fails
    refine ⟨fun error member => fails.write error (List.mem_filter.mp member).1, fun error
      inOrder => fails.readback error (inOrder.trans List.filter_sublist)⟩

/-- The calls that ended since `base`, while only certain chunks were handed out. -/
def Since (allowed : Bytes → Prop) (base outcomes history : List Action) : Prop :=
  ∃ actions, history = base ++ actions ∧ callOutcomes actions = outcomes ∧
    ∀ chunk, .handed chunk ∈ actions → allowed chunk

variable {allowed : Bytes → Prop} {base outcomes history : List Action}

theorem Since.append (since : Since allowed base outcomes history) {action : Action}
    (isAllowed : ∀ chunk, action = .handed chunk → allowed chunk) :
    Since allowed base (outcomes ++ callOutcomes [action]) (history ++ [action]) := by
  rcases since with ⟨actions, rfl, rfl, every⟩
  refine ⟨actions ++ [action], List.append_assoc _ _ _, callOutcomes_append _ _, ?_⟩
  intro chunk member
  rcases List.mem_append.mp member with earlier | last
  · exact every chunk earlier
  · exact isAllowed chunk (List.mem_singleton.mp last).symm

theorem Since.append_other (since : Since allowed base outcomes history) {action : Action}
    (isAllowed : ∀ chunk, action = .handed chunk → allowed chunk)
    (notOutcome : action.isCallOutcome = false) :
    Since allowed base outcomes (history ++ [action]) := by
  have appended := since.append isAllowed
  have none : callOutcomes [action] = [] := by simp [callOutcomes, notOutcome]
  rwa [none, List.append_nil] at appended

theorem since_undisturbed (allows : ∀ chunk, chunk.length ≠ 11 → allowed chunk) :
    Undisturbed (Since allowed base outcomes) := by
  constructor
  · intro history chunk other since
    refine since.append_other ?_ rfl
    rintro handed isHanded
    cases isHanded
    exact allows chunk other
  · intro history action isLink since
    refine since.append_other ?_ ?_
    · rintro chunk rfl
      cases isLink
    · cases action with
      | statusRead outcome => cases isLink
      | positionSet outcome => cases isLink
      | _ => rfl

section Operation

variable {network : Network} {primitives : CryptoPrimitives} {key : PairingKey} {percent : Int}
variable {start later : CallerView}

theorem Since.statusRead {outcome : Raises ShadeStatus}
    (allows : ∀ chunk, chunk.length ≠ 11 → allowed chunk)
    (since : Since allowed base outcomes start.history)
    (ended : CallEnds network (statusCall primitives key) start outcome later) :
    Since allowed base (outcomes ++ [.statusRead outcome]) later.history := by
  rcases ended with ⟨response, exchanged, exchange, _, rfl⟩
  have same := (since_undisturbed allows).exchanging since (fun _ _ _ _ => statusCall_length)
    exchange.exchanging
  exact same.append fun _ => nofun

theorem Since.positionSet {outcome : Raises Unit}
    (since : Since (fun _ => True) base outcomes start.history)
    (ended : CallEnds network (positionCall primitives key (.int percent)) start outcome later) :
    Since (fun _ => True) base (outcomes ++ [.positionSet outcome]) later.history := by
  rcases ended with ⟨response, exchanged, exchange, _, rfl⟩
  have requested : ∀ frame,
      Since (fun _ => True) base outcomes (start.request frame).history :=
    fun frame => since.append_other (fun _ => nofun) rfl
  have same : Since (fun _ => True) base outcomes exchanged.history := by
    cases exchange with
    | unauthenticated isNone isOrdinary => exact since
    | unencoded isNonce encoded => exact requested _
    | sent isNonce encoded sent =>
        refine sent.sending.preserves
          (fun view => Since (fun _ => True) base outcomes view.history) (requested _) ?_ ?_ ?_
        · exact fun copies _ holds => holds.append_other (fun _ _ => trivial) rfl
        · exact fun view holds => holds.append_other (fun _ => nofun) rfl
        · exact fun view reply holds => holds.append_other (fun _ => nofun) rfl
  exact same.append fun _ => nofun

theorem Since.written {before : ShadeStatus} {set : Raises Unit} {first : CallerView}
    (since : Since (¬IsPositionChunk primitives key ·) base [] start.history)
    (read : CallEnds network (statusCall primitives key) start (.ok before) first)
    (ended : CallEnds network (positionCall primitives key (.int percent)) first set later) :
    Since (fun _ => True) base [.statusRead (.ok before), .positionSet set] later.history := by
  rcases since.statusRead not_isPositionChunk read with ⟨actions, grown, same, _⟩
  have unrestricted : Since (fun _ => True) base [.statusRead (.ok before)] first.history :=
    ⟨actions, grown, same, fun _ _ => trivial⟩
  exact unrestricted.positionSet ended

theorem Since.readBack {outcome : Raises ShadeStatus}
    (since : Since (fun _ => True) base outcomes start.history)
    (readback : CallEnds network (statusCall primitives key) start outcome later) :
    Since (fun _ => True) base (outcomes ++ [.statusRead outcome]) later.history :=
  since.statusRead (fun _ _ => trivial) readback

/-- What the claimed report of an operation amounts to, given its actions. -/
def ReportedIff (primitives : CryptoPrimitives) (key : PairingKey) (base : List Action)
    (outcome : Raises (ShadeStatus × Bool)) (history : List Action) : Prop :=
  ∀ actions, history = base ++ actions →
    ((HandsPosition primitives key actions → ReportsMovement outcome) ↔
      (HandsPosition primitives key actions → FailsByTimeout actions))

theorem Since.unmoved {outcome : Raises (ShadeStatus × Bool)}
    (since : Since (¬IsPositionChunk primitives key ·) base outcomes history) :
    ReportedIff primitives key base outcome history := by
  rintro actions rfl
  rcases since with ⟨same, split, _, harmless⟩
  cases List.append_cancel_left split
  have unmoved : ¬HandsPosition primitives key actions :=
    fun ⟨chunk, member, isPosition⟩ => harmless chunk member isPosition
  exact ⟨fun _ moved => absurd moved unmoved, fun _ moved => absurd moved unmoved⟩

theorem Since.reportedIff {outcome : Raises (ShadeStatus × Bool)}
    (since : Since (fun _ => True) base outcomes history)
    (same : ReportsMovement outcome ↔ FailsByTimeout outcomes) :
    ReportedIff primitives key base outcome history := by
  rintro actions rfl
  rcases since with ⟨same, split, rfl, _⟩
  cases List.append_cancel_left split
  rw [failsByTimeout_callOutcomes] at same
  rw [same]

theorem failsByTimeout_written {before : ShadeStatus} {set : Raises Unit} :
    FailsByTimeout [.statusRead (.ok before), .positionSet set] ↔
      ∀ error, set = .error error →
        error.isTiltBleTimeout = true ∨ error.isAmbiguousPositionWrite = true := by
  constructor
  · rintro fails error rfl
    exact fails.write error (by simp)
  · intro fails
    refine ⟨fun error member => fails error ?_, fun error inOrder => ?_⟩
    · simpa [eq_comm] using member
    · simp [List.sublist_cons_iff] at inOrder

theorem failsByTimeout_readBack {before : ShadeStatus} {set : Raises Unit}
    {readback : Raises ShadeStatus} :
    FailsByTimeout [.statusRead (.ok before), .positionSet set, .statusRead readback] ↔
      (∀ error, set = .error error →
        error.isTiltBleTimeout = true ∨ error.isAmbiguousPositionWrite = true) ∧
      (∀ error, set = .ok () → readback = .error error →
        error.isAmbiguousPositionWrite = true) := by
  constructor
  · intro fails
    refine ⟨?_, ?_⟩
    · rintro error rfl
      exact fails.write error (by simp)
    · rintro error rfl rfl
      exact fails.readback error (List.sublist_cons_self _ _)
  · rintro ⟨write, read⟩
    refine ⟨fun error member => write error ?_, fun error inOrder => ?_⟩
    · simpa [eq_comm] using member
    · have both : set = .ok () ∧ readback = .error error := by
        simp only [List.sublist_cons_iff, List.sublist_nil, reduceCtorEq, false_or] at inOrder
        grind
      exact read error both.1 both.2

theorem PositionOperated.reportedIff {outcome : Raises (ShadeStatus × Bool)}
    (since : Since (¬IsPositionChunk primitives key ·) base [] start.history)
    (operated : PositionOperated network primitives key percent start outcome later) :
    ReportedIff primitives key base outcome later.history := by
  cases operated with
  | unread read => exact (since.statusRead not_isPositionChunk read).unmoved
  | unchanged read same => exact (since.statusRead not_isPositionChunk read).unmoved
  | @unset before error first later read differs set notTimeout =>
      apply (since.written read set).reportedIff
      have same : FailsByTimeout [.statusRead (.ok before), .positionSet (.error error)] ↔
          error.isAmbiguousPositionWrite = true := by
        simp [failsByTimeout_written, notTimeout]
      exact same.symm
  | @unreadAfterTimeout before error readError first second later read differs set timeout
      readback message =>
      apply ((since.written read set).readBack readback).reportedIff
      have fails : FailsByTimeout [.statusRead (.ok before), .positionSet (.error error),
          .statusRead (.error readError)] := by
        simp [failsByTimeout_readBack, timeout]
      exact iff_of_true rfl fails
  | @unreadAfterWrite before readError first second later read differs set readback =>
      apply ((since.written read set).readBack readback).reportedIff
      have same : FailsByTimeout [.statusRead (.ok before), .positionSet (.ok ()),
          .statusRead (.error readError)] ↔ readError.isAmbiguousPositionWrite = true := by
        simp [failsByTimeout_readBack]
      exact same.symm
  | @readBack before after set first second later verdict read differs ended continues readback
      isVerdict judged =>
      apply ((since.written read ended).readBack readback).reportedIff
      have fails : FailsByTimeout [.statusRead (.ok before), .positionSet set,
          .statusRead (.ok after)] :=
        failsByTimeout_readBack.mpr ⟨fun error failed => .inl (continues error failed), nofun⟩
      rcases isVerdict with rfl | ⟨message, rfl⟩
      · exact iff_of_true rfl fails
      · exact iff_of_true rfl fails

/-- A position write that may have moved the shade is reported exactly when it
failed by its time-outs alone. -/
theorem setPositionAndReadStatus_reported_iff (primitives : CryptoPrimitives) (key : PairingKey)
    (shadeId : String) (percent : Int) (settleSeconds : Rat) (world : World)
    (events : List (Event Background Choice)) (outcome : Raises (ShadeStatus × Bool))
    (state : World) (actions : List Action)
    (finished : eventLoop.run
      (eventLoop.settle ((callPrimitives primitives key).sessionBody shadeId
        (TiltShadeClient.positionOperation primitives key percent settleSeconds)) world) events =
      some ⟨.done outcome, state⟩)
    (grown : state.callerView.history = world.callerView.history ++ actions) :
    (HandsPosition primitives key actions → ReportsMovement outcome) ↔
      (HandsPosition primitives key actions → FailsByTimeout actions) := by
  have start : Since (¬IsPositionChunk primitives key ·) world.callerView.history []
      world.callerView.history := ⟨[], (List.append_nil _).symm, rfl, nofun⟩
  have opened : Since (¬IsPositionChunk primitives key ·) world.callerView.history []
      world.callerView.newSession.history := start.append_other (fun _ => nofun) rfl
  have behaves : Behaves .arbitrary ((callPrimitives primitives key).sessionBody shadeId
      (TiltShadeClient.positionOperation primitives key percent settleSeconds)) world.callerView
      (fun _ => True) (fun outcome later =>
        ReportedIff primitives key world.callerView.history outcome later.history) := by
    refine sessionBody_behaves trivial (fun _ => start.unmoved) ?_ trivial
      fun _ => opened.unmoved
    refine Behaves.bind ((TiltBleSession.authenticate_behaves _).mono (fun _ _ => trivial) ?_)
    rintro (error | ⟨⟩) later ended
    · exact ((since_undisturbed not_isPositionChunk).authenticating opened
        ended.authenticating).unmoved
    · have authenticated := (since_undisturbed not_isPositionChunk).authenticating opened
        ended.authenticating
      exact (positionOperation_behaves settleSeconds later).mono (fun _ _ => trivial)
        fun outcome last operated => operated.reportedIff authenticated
  exact (behaves.reached finished).2 outcome rfl actions grown

/-- The position operation to 50 percent on a session that has just read `closed`. -/
private def observeOperation (events : List SessionEvent) :
    Option (List Action × Option (Raises (ShadeStatus × Bool))) :=
  observe ((callPrimitives .constant .zero).sessionBody "shade"
      (TiltShadeClient.positionOperation .constant .zero 50 2)) World.initial
    (connectAndAuthenticate .constant .zero zeroNonce ++
      readFirstStatus .constant .zero zeroNonce .closed ++ events)

private theorem observeOperation_finished {events : List SessionEvent}
    {outcome : Raises (ShadeStatus × Bool)}
    (observed : (observeOperation events).map (fun seen =>
        (seen.1.contains (.handed positionChunk), seen.2)) = some (true, some outcome)) :
    ∃ events state, eventLoop.run
        (eventLoop.settle ((callPrimitives .constant .zero).sessionBody "shade"
          (TiltShadeClient.positionOperation .constant .zero 50 2)) World.initial) events =
        some ⟨.done outcome, state⟩ ∧
      HandsPosition .constant .zero state.callerView.history := by
  rcases Option.map_eq_some_iff.mp observed with ⟨⟨history, ended⟩, seen, same⟩
  simp only [Prod.mk.injEq, List.contains_iff_mem] at same
  rcases same with ⟨handed, rfl⟩
  rcases observe_finished seen with ⟨state, finished, rfl⟩
  exact ⟨_, state, finished, positionChunk, handed, isPositionChunk_positionChunk⟩

/-- No acknowledgement of the SET_POSITION chunk arrives, and none of the readback. -/
theorem setPositionAndReadStatus_reported_iff_timeout :
    ∃ events state, eventLoop.run
        (eventLoop.settle ((callPrimitives .constant .zero).sessionBody "shade"
          (TiltShadeClient.positionOperation .constant .zero 50 2)) World.initial) events =
        some ⟨.done (.error (.ambiguousPositionWrite
          "Position write timed out and readback also failed.")), state⟩ ∧
      FailsByTimeout state.callerView.history := by
  have observed : (observeOperation [.resume .completed, .resume .timedOut, .resume .completed,
      .resume .timedOut, .resume .completed, .resume .timedOut]).map (fun seen =>
        (seen.1.contains (.handed positionChunk), seen.2)) =
      some (true, some (.error (.ambiguousPositionWrite
        "Position write timed out and readback also failed."))) := by
    decide +kernel
  rcases observeOperation_finished observed with ⟨events, state, finished, moved⟩
  refine ⟨events, state, finished, ?_⟩
  exact (setPositionAndReadStatus_reported_iff .constant .zero "shade" 50 2 World.initial events
    _ state state.callerView.history finished rfl).mp (fun _ => rfl) moved

/-- The write of the SET_POSITION chunk raises `BleakError`, which leaves the
operation as it is. -/
theorem setPositionAndReadStatus_raises_bleakError :
    ∃ events state, eventLoop.run
        (eventLoop.settle ((callPrimitives .constant .zero).sessionBody "shade"
          (TiltShadeClient.positionOperation .constant .zero 50 2)) World.initial) events =
        some ⟨.done (.error (.bleakError "lost")), state⟩ ∧
      HandsPosition .constant .zero state.callerView.history ∧
      ¬ReportsMovement (.error (.bleakError "lost")) := by
  have observed : (observeOperation [.resume (.failed (.bleakError "lost"))]).map (fun seen =>
        (seen.1.contains (.handed positionChunk), seen.2)) =
      some (true, some (.error (.bleakError "lost"))) := by
    decide +kernel
  rcases observeOperation_finished observed with ⟨events, state, finished, moved⟩
  exact ⟨events, state, finished, moved, nofun⟩

end Operation

end SmartblindsBle
