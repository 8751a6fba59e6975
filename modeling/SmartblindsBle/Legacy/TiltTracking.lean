import Mathlib.Data.Fin.VecNotation
import SmartblindsBle.Foundation.Pools
import SmartblindsBle.Foundation.Traces
import SmartblindsBle.Legacy.Blind

/-! # The tracked tilt

Any number of `set_tilt` calls share one blind. Whatever their order and
whatever fails, the tracked position is the one written on the connection that
was the last to be given up normally after its position had been acknowledged.
-/

namespace SmartblindsBle

open Foundation

/-! ## What the motor has acknowledged -/

namespace MotorEvent

def client : MotorEvent → BleClient
  | .connected client | .acknowledged client _ _ | .writeFailed client _ _
  | .disconnected client | .disconnectFailed client => client

/-- The position byte that is acknowledged. -/
def position? : MotorEvent → Option UInt8
  | .acknowledged _ handle [byte] => if handle = setCharHandle then some byte else none
  | _ => none

@[simp] theorem position?_connected (client : BleClient) :
    (connected client).position? = none := rfl

@[simp] theorem position?_writeFailed (client : BleClient) (handle : Nat) (payload : Bytes) :
    (writeFailed client handle payload).position? = none := rfl

@[simp] theorem position?_positionWrite (client : BleClient) (byte : UInt8) :
    (acknowledged client setCharHandle [byte]).position? = some byte := rfl

@[simp] theorem position?_keyWrite (client : BleClient) (payload : Bytes) :
    (acknowledged client keyCharHandle payload).position? = none := by
  unfold position?
  split
  · next equal =>
      cases equal
      rfl
  · rfl

/-- The position byte that is acknowledged on a connection. -/
def positionOn? (client : BleClient) (event : MotorEvent) : Option UInt8 :=
  if event.client = client then event.position? else none

end MotorEvent

/-- The last position byte that the motor has acknowledged, or 0. -/
def lastAcknowledged (log : List MotorEvent) : UInt8 :=
  (log.filterMap MotorEvent.position?).getLast?.getD 0

/-- The position byte that was acknowledged last on a connection. -/
def heldOn (client : BleClient) (log : List MotorEvent) : Option UInt8 :=
  (log.filterMap (MotorEvent.positionOn? client)).getLast?

/-- The position byte of a connection that is given up normally. -/
def MotorEvent.closes (before : List MotorEvent) : MotorEvent → Option UInt8
  | .disconnected client => heldOn client before
  | _ => none

/-- The position bytes of the connections that were given up normally, in the
order in which they were. -/
def closedPositions (before : List MotorEvent) : List MotorEvent → List UInt8
  | [] => []
  | event :: events =>
      (event.closes before).toList ++ closedPositions (before ++ [event]) events

/-- The position byte of the connection that was the last to be given up
normally after its position was acknowledged, or 0. -/
def lastClosed (log : List MotorEvent) : UInt8 :=
  (closedPositions [] log).getLast?.getD 0

/-- A position is acknowledged within the native range, after the key was
acknowledged on the same connection. -/
def Authenticates (key : Bytes) (before : List MotorEvent) (event : MotorEvent) : Prop :=
  ∀ client payload, event = .acknowledged client setCharHandle payload →
    (∃ byte : UInt8, payload = [byte] ∧ byte.toNat ≤ 200) ∧
      .acknowledged client keyCharHandle key ∈ before

theorem closedPositions_concat (before log : List MotorEvent) (event : MotorEvent) :
    closedPositions before (log ++ [event]) =
      closedPositions before log ++ (event.closes (before ++ log)).toList := by
  induction log generalizing before with
  | nil => simp [closedPositions]
  | cons head log induction =>
      simp only [List.cons_append, closedPositions, induction, List.append_assoc,
        List.nil_append]

theorem lastClosed_closes {log : List MotorEvent} {event : MotorEvent} {byte : UInt8}
    (closes : event.closes log = some byte) : lastClosed (log ++ [event]) = byte := by
  simp [lastClosed, closedPositions_concat, closes]

theorem lastClosed_other {log : List MotorEvent} {event : MotorEvent}
    (closes : event.closes log = none) : lastClosed (log ++ [event]) = lastClosed log := by
  simp [lastClosed, closedPositions_concat, closes]

/-! ## The calls -/

/-- The events on the connections of one call. -/
def ownLog (call : Nat) (log : List MotorEvent) : List MotorEvent :=
  log.filter (·.client.call = call)

theorem ownLog_concat_own {call : Nat} {event : MotorEvent} (log : List MotorEvent)
    (own : event.client.call = call) :
    ownLog call (log ++ [event]) = ownLog call log ++ [event] := by
  simp [ownLog, own]

theorem ownLog_concat_other {call : Nat} {event : MotorEvent} (log : List MotorEvent)
    (other : event.client.call ≠ call) : ownLog call (log ++ [event]) = ownLog call log := by
  simp [ownLog, other]

theorem heldOn_ownLog (client : BleClient) (log : List MotorEvent) :
    heldOn client (ownLog client.call log) = heldOn client log := by
  rw [heldOn, ownLog, List.filterMap_filter, heldOn]
  congr 2
  funext event
  by_cases same : event.client = client
  · simp [same]
  · simp [MotorEvent.positionOn?, same]

/-- The tracked position is the one last closed, and whatever position was
acknowledged came after the key. -/
structure TiltFollows (key : Bytes) (world : BlindWorld) : Prop where
  position : world.blind.position = (lastClosed world.log).toNat
  authenticated : EveryEntry (Authenticates key) world.log

/-- What the tasks do between two suspension points, as far as a call can tell. -/
structure Undisturbing (key : Bytes) (call : Nat) (before after : BlindWorld) : Prop where
  sameKey : after.blind.key = before.blind.key
  sameLog : ownLog call after.log = ownLog call before.log
  follows : TiltFollows key before → TiltFollows key after

/-- A call relies on the others leaving its connections alone. -/
def othersLeave (key : Bytes) (call : Nat) : Interference BlindWorld where
  Allows := Undisturbing key call
  refl _ := ⟨rfl, rfl, id⟩
  trans first second := ⟨second.sameKey.trans first.sameKey, second.sameLog.trans first.sameLog,
    second.follows ∘ first.follows⟩

/-- A call leaves the connections of all others alone. -/
def LeavesOthers (key : Bytes) (call : Nat) (before after : BlindWorld) : Prop :=
  ∀ other, other ≠ call → Undisturbing key other before after

theorem LeavesOthers.refl (key : Bytes) (call : Nat) (world : BlindWorld) :
    LeavesOthers key call world world :=
  fun other _ => (othersLeave key other).refl world

theorem LeavesOthers.record {key : Bytes} {call : Nat} {world : BlindWorld}
    {event : MotorEvent} (own : event.client.call = call)
    (closes : event.closes world.log = none) (authenticates : Authenticates key world.log event) :
    LeavesOthers key call world (world.record event) := by
  intro other different
  constructor
  · rfl
  · apply ownLog_concat_other
    rw [own]
    exact Ne.symm different
  · intro follows
    constructor
    · rw [BlindWorld.record_log, lastClosed_other closes]
      exact follows.position
    · exact follows.authenticated.concat authenticates

theorem LeavesOthers.close {key : Bytes} {call : Nat} {world : BlindWorld}
    {client : BleClient} {byte : UInt8} {position : Int} (own : client.call = call)
    (held : heldOn client world.log = some byte) (same : position = byte.toNat) :
    LeavesOthers key call world
      { world.record (.disconnected client) with
        blind := { world.blind with position := position } } := by
  intro other different
  constructor
  · rfl
  · apply ownLog_concat_other
    rw [MotorEvent.client, own]
    exact Ne.symm different
  · intro follows
    constructor
    · have closed : lastClosed (world.log ++ [.disconnected client]) = byte :=
        lastClosed_closes held
      rw [BlindWorld.record_log, closed]
      exact same
    · exact follows.authenticated.concat nofun

theorem Undisturbing.sameHeld {key : Bytes} {client : BleClient} {before after : BlindWorld}
    (undisturbed : Undisturbing key client.call before after) :
    heldOn client after.log = heldOn client before.log := by
  rw [← heldOn_ownLog, undisturbed.sameLog, heldOn_ownLog]

/-! ## One call -/

/-- Every operation may succeed, or fail with any exception. -/
def blindEnvironment (count : Nat) :
    PoolEnvironment (Fin count) BlindWorld BlindOperation BlindOperation.Reply BlindException
      Empty (Except BlindException Unit) where
  enter _ _ world := world
  background := nofun
  answer index operation choice world :=
    match choice with
    | .ok _ => some (.ok (world.succeeds index operation).1, (world.succeeds index operation).2)
    | .error error => some (.error error, world.fails operation)

/-- The task of one call. -/
def tiltCall (position : Int) : BlindAsync Unit := do
  SmartBlind.await .begin
  SmartBlind.setTilt position

section Call

variable {count : Nat} {index : Fin count} {key : Bytes} {client : BleClient}
variable {origin state : BlindWorld}

/-- What one call guarantees, within what it relies on. -/
abbrev CallUpholds {Result : Type} (index : Fin count) (key : Bytes)
    (post : Except BlindException Result → BlindWorld → BlindWorld → Prop)
    (code : BlindAsync Result) (origin state : BlindWorld) : Prop :=
  code.Upholds ((blindEnvironment count).view index) (othersLeave key index)
    (LeavesOthers key index) post origin state

theorem disconnect_unheld_upholds (own : client.call = index)
    (leaves : LeavesOthers key index origin state)
    (unheld : heldOn client state.log = none) :
    CallUpholds index key (fun _ => LeavesOthers key index)
      (SmartBlind.await (.disconnect client)) origin state := by
  constructor
  · exact leaves
  · intro later allowed choice reply after answered
    rw [← own] at allowed
    have stillUnheld : heldOn client later.log = none := allowed.sameHeld.trans unheld
    cases choice with
    | ok _ =>
        cases answered
        exact .record own stillUnheld nofun
    | error error =>
        cases answered
        exact .record own rfl nofun

theorem disconnect_held_upholds {byte : UInt8} (own : client.call = index)
    (leaves : LeavesOthers key index origin state)
    (held : heldOn client state.log = some byte) :
    CallUpholds index key
      (fun cleaned origin state => match cleaned with
        | .ok _ => heldOn client origin.log = some byte ∧
            state = origin.record (.disconnected client)
        | .error _ => LeavesOthers key index origin state)
      (SmartBlind.await (.disconnect client)) origin state := by
  constructor
  · exact leaves
  · intro later allowed choice reply after answered
    rw [← own] at allowed
    have stillHeld : heldOn client later.log = some byte := allowed.sameHeld.trans held
    cases choice with
    | ok _ =>
        cases answered
        exact ⟨stillHeld, rfl⟩
    | error error =>
        cases answered
        exact .record own rfl nofun

/-- The two writes of a call on its connection. -/
theorem writes_upholds {byte : UInt8} (own : client.call = index) (inRange : byte.toNat ≤ 200)
    (leaves : LeavesOthers key index origin state) (sameKey : state.blind.key = key)
    (logged : ownLog index state.log = [.connected client]) :
    CallUpholds index key
      (fun outcome origin state => LeavesOthers key index origin state ∧
        heldOn client state.log = match outcome with
          | .ok _ => some byte
          | .error _ => none)
      (do
        let blind ← SmartBlind.self
        SmartBlind.await (.writeGattChar client keyCharHandle blind.key)
        SmartBlind.await (.writeGattChar client setCharHandle [byte])) origin state := by
  have logAfter {world : BlindWorld} {events : List MotorEvent} {event : MotorEvent}
      (logged : ownLog index world.log = events) (onClient : event.client = client) :
      ownLog index (world.record event).log = events ++ [event] := by
    rw [BlindWorld.record_log, ownLog_concat_own world.log (by rw [onClient, own]), logged]
  have heldAfter {world : BlindWorld} {events : List MotorEvent} {event : MotorEvent}
      (logged : ownLog index world.log = events) (onClient : event.client = client) :
      heldOn client (world.record event).log =
        ((events ++ [event]).filterMap (MotorEvent.positionOn? client)).getLast? := by
    rw [← heldOn_ownLog, own, logAfter logged onClient, heldOn]
  apply Coroutine.Upholds.bind
  apply Coroutine.Upholds.bind
  constructor
  · exact leaves
  · intro later allowed choice reply after answered
    have laterLog := allowed.sameLog.trans logged
    cases choice with
    | error error =>
        cases answered
        constructor
        · exact .record own rfl nofun
        · apply (heldAfter laterLog rfl).trans
          simp [MotorEvent.positionOn?]
    | ok _ =>
        cases answered
        have keyWritten : ownLog index (later.record
            (.acknowledged client keyCharHandle state.blind.key)).log =
              [.connected client, .acknowledged client keyCharHandle key] := by
          rw [← sameKey]
          exact logAfter laterLog rfl
        constructor
        · exact .record own rfl nofun
        · intro last allowed choice reply after answered
          have lastLog := allowed.sameLog.trans keyWritten
          cases choice with
          | error error =>
              cases answered
              constructor
              · exact .record own rfl nofun
              · apply (heldAfter lastLog rfl).trans
                simp [MotorEvent.positionOn?]
          | ok _ =>
              cases answered
              constructor
              · apply LeavesOthers.record
                · exact own
                · rfl
                · intro other payload equal
                  cases equal
                  have keyKnown : .acknowledged client keyCharHandle key ∈
                      ownLog index last.log := by
                    rw [lastLog]
                    exact List.mem_cons_of_mem _ (List.mem_singleton_self _)
                  exact ⟨⟨byte, rfl, inRange⟩, List.mem_of_mem_filter keyKnown⟩
              · apply (heldAfter lastLog rfl).trans
                simp [MotorEvent.positionOn?, MotorEvent.client]

/-- A whole command: when it succeeds, its connection has just been given up. -/
theorem write_upholds {byte : UInt8} (inRange : byte.toNat ≤ 200)
    (leaves : LeavesOthers key index origin state) (sameKey : state.blind.key = key)
    (fresh : ownLog index state.log = []) :
    CallUpholds index key
      (fun outcome origin state => match outcome with
        | .ok _ => ∃ client : BleClient, client.call = index ∧
            heldOn client origin.log = some byte ∧ state = origin.record (.disconnected client)
        | .error _ => LeavesOthers key index origin state)
      (SmartBlind.write setCharHandle [byte]) origin state := by
  apply Coroutine.Upholds.bind
  apply Coroutine.Upholds.tryCatch
  constructor
  · exact leaves
  · intro later allowed choice reply after answered
    cases choice with
    | error error =>
        cases answered
        cases ordinary : error.isOrdinary with
        | true =>
            simp only [Coroutine.Upholds, ordinary, if_true]
            exact .refl key index later
        | false =>
            simp only [Coroutine.Upholds, ordinary]
            exact .refl key index later
    | ok _ =>
        cases answered
        have own : (MotorEvent.connected ⟨index, later.connections⟩).client.call = index := rfl
        have connected : LeavesOthers key index later
            (later.record (.connected ⟨index, later.connections⟩)) := .record own rfl nofun
        have logged : ownLog index
            (later.record (.connected ⟨index, later.connections⟩)).log =
              [.connected ⟨index, later.connections⟩] := by
          rw [BlindWorld.record_log, ownLog_concat_own later.log own, allowed.sameLog.trans fresh]
          rfl
        have written := writes_upholds rfl inRange connected (allowed.sameKey.trans sameKey) logged
        apply Coroutine.Upholds.tryFinally
        apply written.weaken
        intro outcome first last ended
        cases outcome with
        | ok value =>
            apply (disconnect_held_upholds rfl ended.1 ended.2).weaken
            intro cleaned before after given
            cases cleaned with
            | ok _ => exact ⟨_, rfl, given⟩
            | error error => exact given
        | error error =>
            apply (disconnect_unheld_upholds rfl ended.1 ended.2).weaken
            intro cleaned before after given
            cases cleaned <;> exact given

/-- A whole call. -/
theorem tiltCall_waits (position : Int) (world : BlindWorld) (sameKey : world.blind.key = key)
    (fresh : ownLog index world.log = []) :
    (tiltCall position).Waits ((blindEnvironment count).view index) (othersLeave key index)
      (LeavesOthers key index) world := by
  intro later allowed choice reply after answered
  cases choice with
  | error error =>
      cases answered
      exact .refl key index later
  | ok _ =>
      cases answered
      have start := LeavesOthers.refl key index later
      by_cases inRange : positionMin ≤ position ∧ position ≤ positionMax
      · have byteOf : ((UInt8.ofNat position.toNat).toNat : Int) = position := by
          rw [positionMin, positionMax] at inRange
          rw [UInt8.toNat_ofNat_of_lt' (by simp only [UInt8.size]; omega)]
          omega
        have byteBound : (UInt8.ofNat position.toNat).toNat ≤ 200 := by
          rw [positionMin, positionMax] at inRange
          omega
        have called : CallUpholds index key (fun _ => LeavesOthers key index)
            (SmartBlind.setTilt position) later later := by
          rw [SmartBlind.setTilt_inRange inRange]
          apply Coroutine.Upholds.bind
          apply (write_upholds byteBound start (allowed.sameKey.trans sameKey)
            (allowed.sameLog.trans fresh)).weaken
          intro outcome first last ended
          cases outcome with
          | ok value =>
              rcases ended with ⟨client, own, held, equal⟩
              subst equal
              exact LeavesOthers.close own held byteOf.symm
          | error error => exact ended
        exact called
      · have refused : CallUpholds index key (fun _ => LeavesOthers key index)
            (SmartBlind.setTilt position) later later := by
          rw [SmartBlind.setTilt_outOfRange inRange]
          exact start
        exact refused

end Call

/-! ## All calls -/

/-- One blind and its calls, none of which has begun. -/
def tiltCalls {count : Nat} (address : String) (key : Bytes) (positions : Fin count → Int) :
    Pool (Fin count) BlindWorld BlindOperation BlindOperation.Reply BlindException Unit where
  codes index := tiltCall (positions index)
  state := .initial address key

/-- The tracked position is the one the motor has acknowledged last, and every
position it has acknowledged was in range and came after the key. -/
def FollowsMotor (key : Bytes) (world : BlindWorld) : Prop :=
  world.blind.position = (lastAcknowledged world.log).toNat ∧
    EveryEntry (Authenticates key) world.log

/-- Of the connections that are given up normally with an acknowledged position,
the last one carries the position acknowledged last. -/
def LastClosedIsLast (log : List MotorEvent) : Prop :=
  lastClosed log = lastAcknowledged log

instance (log : List MotorEvent) : Decidable (LastClosedIsLast log) :=
  inferInstanceAs (Decidable (_ = _))

section Runs

variable {count : Nat} (address : String) (key : Bytes) (positions : Fin count → Int)
variable {events : List (PoolEvent (Fin count) Empty (Except BlindException Unit))}
variable {last : Pool (Fin count) BlindWorld BlindOperation BlindOperation.Reply
  BlindException Unit}

/-- However the calls interleave and fail, the tracked position is the one last
closed. -/
theorem tiltCalls_follow
    (reached : (tiltCalls address key positions).run (blindEnvironment count) events =
      some last) : TiltFollows key last.state := by
  have waits : Pool.AllWait (blindEnvironment count) (othersLeave key ·) (LeavesOthers key ·)
      (tiltCalls address key positions) :=
    fun index => tiltCall_waits (positions index) (.initial address key) rfl rfl
  have start : TiltFollows key (.initial address key) := ⟨rfl, EveryEntry.nil⟩
  apply (waits.run _ nofun _ nofun start reached).2
  · intro index other different before after leaves
    exact leaves index (fun same => different (Fin.ext same).symm)
  · intro index before after leaves
    -- the guarantee to a call that does not exist
    exact (leaves count (Nat.ne_of_gt index.isLt)).follows

/-- At every point of every run of the calls, and so at its end, the tracked
position is the last acknowledged one exactly when the last closed position is. -/
theorem tiltCalls_followMotor_iff
    (reached : (tiltCalls address key positions).run (blindEnvironment count) events =
      some last) : FollowsMotor key last.state ↔ LastClosedIsLast last.state.log := by
  have follows := tiltCalls_follow address key positions reached
  unfold FollowsMotor LastClosedIsLast
  constructor
  · intro followsMotor
    have same : (lastClosed last.state.log).toNat = (lastAcknowledged last.state.log).toNat := by
      have position := followsMotor.1
      rw [follows.position] at position
      exact Int.ofNat_inj.mp position
    exact UInt8.toNat_inj.mp same
  · intro same
    constructor
    · rw [follows.position, same]
    · exact follows.authenticated

end Runs

/-- Two calls take turns; the second one is the last to be acknowledged and the
last to disconnect. -/
def takingTurns : List (PoolEvent (Fin 2) Empty (Except BlindException Unit)) :=
  [0, 0, 1, 1, 0, 1, 0, 1, 0, 1].map fun index => .resume index (.ok ())

theorem tiltCalls_followMotor_iff_takingTurns :
    ∃ last, (tiltCalls "AA:BB:CC:DD:EE:FF" [0x2A] ![50, 150]).run (blindEnvironment 2)
        takingTurns = some last ∧
      last.state.blind.position = 150 ∧ FollowsMotor [0x2A] last.state := by
  refine ⟨_, rfl, rfl, ?_⟩
  exact (@tiltCalls_followMotor_iff 2 "AA:BB:CC:DD:EE:FF" [0x2A] ![50, 150] takingTurns _
    rfl).mpr (by decide)

/-- The motor has moved, but the connection cannot be given up. -/
theorem tiltCalls_misses_failedDisconnect :
    ∃ last, (tiltCalls "AA:BB:CC:DD:EE:FF" [0x2A] (fun _ : Fin 1 => 100)).run
        (blindEnvironment 1)
        [.resume 0 (.ok ()), .resume 0 (.ok ()), .resume 0 (.ok ()), .resume 0 (.ok ()),
          .resume 0 (.error (.bleakError "Disconnect timed out"))] = some last ∧
      (∀ index, ((last.codes index).outcome?).isSome = true) ∧
      ¬ FollowsMotor [0x2A] last.state := by
  refine ⟨_, rfl, ?_, ?_⟩
  · decide
  · intro follows
    exact absurd follows.1 (by decide)

end SmartblindsBle
