import SmartblindsBle.Tilt.Counters
import SmartblindsBle.Tilt.PositionReports

/-! # The outcome of a position call

The outcome depends on the first status and on the status read after the write.
The readback is compared with the first status in whole percents, so a movement
that does not change the rounded percentage is taken for none.
-/

namespace SmartblindsBle

open Foundation

/-! ## Movement in raw units -/

/-- The raw position moved strictly toward the target. -/
def RawMovedToward (before after : ShadeStatus) (percent : Int) : Prop :=
  (before.rawPosition < 10 * percent ∧ before.rawPosition < after.rawPosition) ∨
    (10 * percent < before.rawPosition ∧ after.rawPosition < before.rawPosition)

/-- The shade arrived, or it is on its way. -/
def Responded (before after : ShadeStatus) (percent : Int) : Prop :=
  after.positionPercent = percent ∨ RawMovedToward before after percent

/-- The shade moved toward the target without a change of the rounded percentage. -/
def MovedWithinPercent (before after : ShadeStatus) (percent : Int) : Prop :=
  RawMovedToward before after percent ∧ after.positionPercent = before.positionPercent

theorem roundTenths_near (raw : Nat) :
    10 * roundTenths raw ≤ raw + 5 ∧ raw ≤ 10 * roundTenths raw + 5 := by
  unfold roundTenths
  repeat' split
  all_goals omega

theorem roundTenths_mono {first second : Nat} (le : first ≤ second) :
    roundTenths first ≤ roundTenths second := by
  have firstNear := roundTenths_near first
  have secondNear := roundTenths_near second
  by_contra less
  -- both would be five units away from neighbouring percents, a tie that rounds one way
  have tie : first = second := by omega
  rw [tie] at less
  exact less (Nat.le_refl _)

/-- As long as the first status is not at the target, the comparison of rounded
percentages sees every movement toward it that changes them. -/
theorem movedToward_iff {before after : ShadeStatus} {percent : Int}
    (differs : before.positionPercent ≠ percent) :
    movedToward before after percent = true ↔
      RawMovedToward before after percent ∧ after.positionPercent ≠ before.positionPercent := by
  have near := roundTenths_near before.rawPosition
  have forward := @roundTenths_mono before.rawPosition after.rawPosition
  have backward := @roundTenths_mono after.rawPosition before.rawPosition
  unfold movedToward RawMovedToward
  unfold ShadeStatus.positionPercent at differs ⊢
  split
  · rw [decide_eq_true_eq]
    omega
  · rw [decide_eq_true_eq]
    omega

/-! ## The outcome -/

/-- What the outcome is to be, given the actions of the operation. -/
structure OutcomeMatches (primitives : CryptoPrimitives) (key : PairingKey) (percent : Int)
    (actions : List Action) (outcome : Raises (ShadeStatus × Bool)) : Prop where
  /-- The shade was at the target: nothing was written. -/
  unchanged : ∀ before rest, callOutcomes actions = .statusRead (.ok before) :: rest →
    before.positionPercent = percent →
      outcome = .ok (before, false) ∧ rest = [] ∧ ¬HandsPosition primitives key actions
  /-- The write was acknowledged or timed out, and the shade answered the readback. -/
  readBack : ∀ before set after, callOutcomes actions =
      [.statusRead (.ok before), .positionSet set, .statusRead (.ok after)] →
    before.positionPercent ≠ percent →
      (outcome = .ok (after, true) ↔ Responded before after percent) ∧
      ((∃ message, outcome = .error (.positionVerificationPending message after)) ↔
        ¬Responded before after percent)

/-- No readback shows a movement within a percent that has not arrived. -/
def SeesMovement (percent : Int) (actions : List Action) : Prop :=
  ∀ before set after, callOutcomes actions =
      [.statusRead (.ok before), .positionSet set, .statusRead (.ok after)] →
    before.positionPercent ≠ percent → after.positionPercent ≠ percent →
      ¬MovedWithinPercent before after percent

section Operation

variable {network : Network} {primitives : CryptoPrimitives} {key : PairingKey} {percent : Int}
variable {start later : CallerView} {base : List Action}

theorem Since.callOutcomes_eq {allowed : Bytes → Prop} {outcomes history actions : List Action}
    (since : Since allowed base outcomes history) (grown : history = base ++ actions) :
    callOutcomes actions = outcomes ∧ ∀ chunk, .handed chunk ∈ actions → allowed chunk := by
  rcases since with ⟨others, split, same, every⟩
  rw [grown] at split
  cases List.append_cancel_left split
  exact ⟨same, every⟩

/-- The verdict on a readback is the expected one unless the movement stayed
within a percent. -/
theorem verdict_matches_iff {before after : ShadeStatus} {verdict : Raises (ShadeStatus × Bool)}
    (differs : before.positionPercent ≠ percent)
    (isVerdict : verdict = .ok (after, true) ∨
      ∃ message, verdict = .error (.positionVerificationPending message after))
    (judged : verdict = .ok (after, true) ↔
      after.positionPercent = percent ∨ movedToward before after percent = true) :
    ((verdict = .ok (after, true) ↔ Responded before after percent) ∧
        ((∃ message, verdict = .error (.positionVerificationPending message after)) ↔
          ¬Responded before after percent)) ↔
      (after.positionPercent ≠ percent → ¬MovedWithinPercent before after percent) := by
  rw [movedToward_iff differs] at judged
  have either : (∃ message, verdict = .error (.positionVerificationPending message after)) ↔
      ¬verdict = .ok (after, true) := by
    constructor
    · rintro ⟨message, rfl⟩
      exact nofun
    · intro failed
      exact isVerdict.resolve_left failed
  rw [either, judged, not_iff_not, and_self]
  unfold Responded MovedWithinPercent
  by_cases arrived : after.positionPercent = percent
  · simp [arrived]
  · -- what the comparison adds is that the rounded percentage changes
    simp [arrived]

/-- Without a complete readback, and with the shade away from the target, nothing is
promised. -/
theorem matches_iff_silent {outcome : Raises (ShadeStatus × Bool)} {actions : List Action}
    (away : ∀ before rest, callOutcomes actions = .statusRead (.ok before) :: rest →
      before.positionPercent ≠ percent)
    (incomplete : ∀ before set after, callOutcomes actions ≠
      [.statusRead (.ok before), .positionSet set, .statusRead (.ok after)]) :
    OutcomeMatches primitives key percent actions outcome ↔ SeesMovement percent actions := by
  apply iff_of_true
  · constructor
    · intro before rest isFirst same
      exact absurd same (away before rest isFirst)
    · intro before set after complete
      exact absurd complete (incomplete before set after)
  · intro before set after complete
    exact absurd complete (incomplete before set after)

theorem matches_iff_unchanged {before : ShadeStatus} {actions : List Action}
    (onlyRead : callOutcomes actions = [.statusRead (.ok before)])
    (unwritten : ¬HandsPosition primitives key actions) :
    OutcomeMatches primitives key percent actions (.ok (before, false)) ↔
      SeesMovement percent actions := by
  apply iff_of_true
  · constructor
    · intro first rest isFirst _
      rw [onlyRead] at isFirst
      cases isFirst
      exact ⟨rfl, rfl, unwritten⟩
    · intro first set after complete
      rw [onlyRead] at complete
      cases complete
  · intro first set after complete
    rw [onlyRead] at complete
    cases complete

theorem matches_iff_readBack {before after : ShadeStatus} {set : Raises Unit}
    {verdict : Raises (ShadeStatus × Bool)} {actions : List Action}
    (outcomes : callOutcomes actions =
      [.statusRead (.ok before), .positionSet set, .statusRead (.ok after)])
    (differs : before.positionPercent ≠ percent)
    (exact_iff : ((verdict = .ok (after, true) ↔ Responded before after percent) ∧
        ((∃ message, verdict = .error (.positionVerificationPending message after)) ↔
          ¬Responded before after percent)) ↔
      (after.positionPercent ≠ percent → ¬MovedWithinPercent before after percent)) :
    OutcomeMatches primitives key percent actions verdict ↔ SeesMovement percent actions := by
  constructor
  · intro isMatch first other last complete _ away
    have expected := isMatch.readBack before set after outcomes differs
    rw [outcomes] at complete
    cases complete
    exact exact_iff.mp expected away
  · intro sees
    constructor
    · intro first rest isFirst same
      rw [outcomes] at isFirst
      cases isFirst
      exact absurd same differs
    · intro first other last complete _
      rw [outcomes] at complete
      cases complete
      exact exact_iff.mpr (sees before set after outcomes differs)

/-- The three outcomes of the operation are exhaustive and exact, but for
movements within a percent. -/
theorem PositionOperated.matches_iff {outcome : Raises (ShadeStatus × Bool)}
    {actions : List Action}
    (since : Since (¬IsPositionChunk primitives key ·) base [] start.history)
    (operated : PositionOperated network primitives key percent start outcome later)
    (grown : later.history = base ++ actions) :
    OutcomeMatches primitives key percent actions outcome ↔ SeesMovement percent actions := by
  cases operated with
  | unread read =>
      have ended := ((since.statusRead not_isPositionChunk read).callOutcomes_eq grown).1
      apply matches_iff_silent
      · simp [ended]
      · simp [ended]
  | unchanged read same =>
      have facts := (since.statusRead not_isPositionChunk read).callOutcomes_eq grown
      apply matches_iff_unchanged facts.1
      intro written
      rcases written with ⟨chunk, member, isPosition⟩
      exact facts.2 chunk member isPosition
  | unset read differs set notTimeout =>
      have ended := ((since.written read set).callOutcomes_eq grown).1
      apply matches_iff_silent
      · simp [ended, differs]
      · simp [ended]
  | unreadAfterTimeout read differs set timeout readback message =>
      have ended := (((since.written read set).readBack readback).callOutcomes_eq grown).1
      apply matches_iff_silent
      · simp [ended, differs]
      · simp [ended]
  | unreadAfterWrite read differs set readback =>
      have ended := (((since.written read set).readBack readback).callOutcomes_eq grown).1
      apply matches_iff_silent
      · simp [ended, differs]
      · simp [ended]
  | readBack read differs set continues readback isVerdict judged =>
      have ended := (((since.written read set).readBack readback).callOutcomes_eq grown).1
      exact matches_iff_readBack ended differs (verdict_matches_iff differs isVerdict judged)

/-- In every run of the operation to its end, the outcome matches what the shade
did exactly when no readback shows a movement within a percent. -/
theorem positionOperation_matches_iff (primitives : CryptoPrimitives) (key : PairingKey)
    (percent : Int) (settleSeconds : Rat) (world : World)
    (events : List (Event Background Choice)) (outcome : Raises (ShadeStatus × Bool))
    (state : World) (actions : List Action)
    (finished : eventLoop.run
      (eventLoop.settle
        (TiltShadeClient.positionOperation primitives key percent settleSeconds) world) events =
      some ⟨.done outcome, state⟩)
    (grown : state.callerView.history = world.callerView.history ++ actions) :
    OutcomeMatches primitives key percent actions outcome ↔ SeesMovement percent actions := by
  have start : Since (¬IsPositionChunk primitives key ·) world.callerView.history []
      world.callerView.history := ⟨[], (List.append_nil _).symm, rfl, nofun⟩
  have operated := (positionOperation_behaves settleSeconds world.callerView).reached finished
  exact (operated.2 outcome rfl).matches_iff start grown

/-! ## A shade that moves after the write -/

/-- A shade at this raw position. -/
private def statusAt (raw : Nat) (inRange : raw ≤ 1000) : ShadeStatus :=
  { ShadeStatus.closed with rawPosition := raw, rawPosition_le := inRange }

/-- The frames of the shade: the first status, the acknowledgement of the write
and the readback. -/
private def moveTo (after : ShadeStatus) : List SessionEvent :=
  exchangeFrame 1 (encodeAppResponse .constant ShadeCommand.getStatus.value
      (statusPayload .closed) PairingKey.zero.bytes zeroNonce 1 1) 1 ++
    exchangeFrame 2 (encodeAppResponse .constant ShadeCommand.ack.value
      [ShadeCommand.setPosition.value] PairingKey.zero.bytes zeroNonce 2 2) 2 ++
    [.resume .completed] ++
    exchangeFrame 3 (encodeAppResponse .constant ShadeCommand.getStatus.value
      (statusPayload after) PairingKey.zero.bytes zeroNonce 3 3) 3

private theorem moveTo_finished {after : ShadeStatus} {outcome : Raises (ShadeStatus × Bool)}
    (observed : (observe (TiltShadeClient.positionOperation .constant .zero 50 2)
        (World.authenticated zeroNonce) (moveTo after)).map (fun seen =>
          (callOutcomes seen.1, seen.2)) =
      some ([.statusRead (.ok .closed), .positionSet (.ok ()), .statusRead (.ok after)],
        some outcome)) :
    ∃ events state, eventLoop.run
        (eventLoop.settle (TiltShadeClient.positionOperation .constant .zero 50 2)
          (World.authenticated zeroNonce)) events = some ⟨.done outcome, state⟩ ∧
      callOutcomes state.callerView.history =
        [.statusRead (.ok .closed), .positionSet (.ok ()), .statusRead (.ok after)] := by
  rcases Option.map_eq_some_iff.mp observed with ⟨⟨history, ended⟩, seen, same⟩
  simp only [Prod.mk.injEq] at same
  rcases same with ⟨outcomes, rfl⟩
  rcases observe_finished seen with ⟨state, finished, rfl⟩
  exact ⟨_, state, finished, outcomes⟩

/-- From closed to raw 230 on the way to 50 percent. -/
theorem positionOperation_matches_iff_travelling : ∃ events state,
    eventLoop.run (eventLoop.settle (TiltShadeClient.positionOperation .constant .zero 50 2)
        (World.authenticated zeroNonce)) events =
      some ⟨.done (.ok (statusAt 230 (by decide), true)), state⟩ ∧
    OutcomeMatches .constant .zero 50 state.callerView.history
      (.ok (statusAt 230 (by decide), true)) := by
  rcases @moveTo_finished (statusAt 230 (by decide)) (.ok (statusAt 230 (by decide), true))
    (by decide +kernel) with ⟨events, state, finished, outcomes⟩
  have isMatch := positionOperation_matches_iff .constant .zero 50 2
    (World.authenticated zeroNonce) events _ state state.callerView.history finished rfl
  refine ⟨events, state, finished, isMatch.mpr ?_⟩
  intro before set after complete _ _ within
  rw [outcomes] at complete
  cases complete
  exact absurd within.2 (by decide)

/-- From closed to raw 4, which is still zero percent: the shade moves, and the
caller is told that it did not. -/
theorem positionOperation_denies_movement : ∃ events state message,
    eventLoop.run (eventLoop.settle (TiltShadeClient.positionOperation .constant .zero 50 2)
        (World.authenticated zeroNonce)) events =
      some ⟨.done (.error (.positionVerificationPending message (statusAt 4 (by decide)))),
        state⟩ ∧
    RawMovedToward .closed (statusAt 4 (by decide)) 50 ∧
    ¬OutcomeMatches .constant .zero 50 state.callerView.history
      (.error (.positionVerificationPending message (statusAt 4 (by decide)))) := by
  rcases @moveTo_finished (statusAt 4 (by decide)) (.error (.positionVerificationPending
      ("Position write completed and the responding shade did not move " ++
        "toward the target.") (statusAt 4 (by decide))))
    (by decide +kernel) with ⟨events, state, finished, outcomes⟩
  have moved : RawMovedToward .closed (statusAt 4 (by decide)) 50 := .inl (by decide)
  refine ⟨events, state, _, finished, moved, fun isMatch => ?_⟩
  have expected := isMatch.readBack _ _ _ outcomes (by decide)
  exact expected.2.mp ⟨_, rfl⟩ (.inr moved)

end Operation

end SmartblindsBle
