import Mathlib.Order.WellFounded
import SmartblindsBle.Foundation.Handlers
import SmartblindsBle.Legacy.Blind

/-! # The key scan

A motor does one of four things with a candidate key. The scan is followed
through all of them, up to the first candidate that is not refused.
-/

namespace SmartblindsBle

open Foundation

/-! ## Motors -/

/-- What a motor does to a command under a candidate key, with the message of
the exception that the BLE client raises. -/
inductive MotorOutcome
  | refusesConnection (message : String)
  | keyWriteFails (message : String)
  | positionWriteFails (message : String)
  | success
  deriving DecidableEq, Repr

namespace MotorOutcome

def isRefusal : MotorOutcome → Bool
  | .refusesConnection _ => true
  | _ => false

/-- The exception that an operation raises, if the motor makes it fail. -/
def failure? : MotorOutcome → BlindOperation → Option BlindException
  | .refusesConnection message, .establishConnection => some (.bleakError message)
  | .keyWriteFails message, .writeGattChar _ handle _ =>
      if handle = keyCharHandle then some (.bleakError message) else none
  | .positionWriteFails message, .writeGattChar _ handle _ =>
      if handle = setCharHandle then some (.bleakError message) else none
  | _, _ => none

end MotorOutcome

/-- A motor's behaviour under each candidate key. -/
abbrev Motor : Type := UInt8 → MotorOutcome

/-- The candidate that a blind is trying. -/
def SmartBlind.candidate (blind : SmartBlind) : UInt8 := blind.key.headD 0

/-- The motor answers every operation of the only call. -/
def Motor.handler (motor : Motor) :
    Handler BlindWorld BlindOperation BlindOperation.Reply BlindException :=
  fun operation world =>
    match (motor world.blind.candidate).failure? operation with
    | some error => (.error error, world.fails operation)
    | none => (.ok (world.succeeds 0 operation).1, (world.succeeds 0 operation).2)

/-- `keyscan` against a motor. -/
def Motor.keyscan (motor : Motor) (world : BlindWorld) :
    Except BlindException Bytes × BlindWorld :=
  SmartBlind.keyscan.evaluate motor.handler world

/-! ## One candidate -/

/-- How a command ends under a candidate key. -/
def MotorOutcome.result (address : String) : MotorOutcome → Except BlindException Unit
  | .refusesConnection message =>
      .error (.connectionFailed ("Could not connect to " ++ address ++ ": " ++ message))
  | .keyWriteFails message | .positionWriteFails message => .error (.bleakError message)
  | .success => .ok ()

/-- What a command for position 200 leaves of the blind. -/
def MotorOutcome.leaves (blind : SmartBlind) : MotorOutcome → SmartBlind
  | .success => { blind with position := positionMax }
  | _ => blind

namespace Motor

variable (motor : Motor)

@[simp] theorem handler_blind (operation : BlindOperation) (world : BlindWorld) :
    (motor.handler operation world).2.blind = world.blind := by
  unfold handler
  split
  · cases operation <;> rfl
  · cases operation <;> rfl

theorem handler_eq_ok {operation : BlindOperation} {world : BlindWorld}
    (succeeds : (motor world.blind.candidate).failure? operation = none) :
    motor.handler operation world =
      (.ok (world.succeeds 0 operation).1, (world.succeeds 0 operation).2) := by
  rw [handler, succeeds]

theorem handler_eq_error {operation : BlindOperation} {world : BlindWorld}
    {error : BlindException}
    (fails : (motor world.blind.candidate).failure? operation = some error) :
    motor.handler operation world = (.error error, world.fails operation) := by
  rw [handler, fails]

theorem tryFinally_disconnect_evaluate {Result : Type} (body : BlindAsync Result)
    (client : BleClient) (world : BlindWorld) :
    let ended := (Foundation.tryFinally body (SmartBlind.await (.disconnect client))).evaluate
      motor.handler world
    ended.1 = (body.evaluate motor.handler world).1 ∧
      ended.2.blind = (body.evaluate motor.handler world).2.blind := by
  have disconnects (after : BlindWorld) :
      (motor after.blind.candidate).failure? (.disconnect client) = none := by
    cases motor after.blind.candidate <;> rfl
  rw [Coroutine.evaluate_tryFinally, SmartBlind.await, Coroutine.evaluate_perform,
    handler_eq_ok motor (disconnects _)]
  exact ⟨rfl, rfl⟩

theorem writes_evaluate (client : BleClient) (payload : Bytes) (world : BlindWorld)
    (accepts : (motor world.blind.candidate).isRefusal = false) :
    let ended := (SmartBlind.await (.writeGattChar client keyCharHandle world.blind.key) >>=
      fun _ => SmartBlind.await (.writeGattChar client setCharHandle payload)).evaluate
        motor.handler world
    ended.1 = (motor world.blind.candidate).result world.blind.address ∧
      ended.2.blind = world.blind := by
  rw [Coroutine.evaluate_bind, SmartBlind.await, Coroutine.evaluate_perform]
  cases outcome : motor world.blind.candidate with
  | refusesConnection message =>
      rw [outcome] at accepts
      cases accepts
  | keyWriteFails message =>
      rw [handler_eq_error motor (by rw [outcome]; rfl)]
      exact ⟨rfl, rfl⟩
  | positionWriteFails message =>
      rw [handler_eq_ok motor (by rw [outcome]; rfl)]
      change let ended := motor.handler _ (world.record _)
        ended.1 = _ ∧ ended.2.blind = _
      rw [handler_eq_error motor (by rw [BlindWorld.record_blind, outcome]; rfl)]
      exact ⟨rfl, rfl⟩
  | success =>
      rw [handler_eq_ok motor (by rw [outcome]; rfl)]
      change let ended := motor.handler _ (world.record _)
        ended.1 = _ ∧ ended.2.blind = _
      rw [handler_eq_ok motor (by rw [BlindWorld.record_blind, outcome]; rfl)]
      exact ⟨rfl, rfl⟩

theorem write_evaluate (payload : Bytes) (world : BlindWorld) :
    let ended := (SmartBlind.write setCharHandle payload).evaluate motor.handler world
    ended.1 = (motor world.blind.candidate).result world.blind.address ∧
      ended.2.blind = world.blind := by
  rw [SmartBlind.write, Coroutine.evaluate_bind, Coroutine.evaluate_tryCatch, SmartBlind.await,
    Coroutine.evaluate_perform]
  cases refuses : (motor world.blind.candidate).isRefusal with
  | true =>
      cases outcome : motor world.blind.candidate with
      | refusesConnection message =>
          rw [handler_eq_error motor (by rw [outcome]; rfl)]
          exact ⟨rfl, rfl⟩
      | _ =>
          rw [outcome] at refuses
          cases refuses
  | false =>
      have connects : (motor world.blind.candidate).failure? .establishConnection = none := by
        cases outcome : motor world.blind.candidate with
        | refusesConnection message =>
            rw [outcome] at refuses
            cases refuses
        | _ => rfl
      rw [handler_eq_ok motor connects]
      have given := tryFinally_disconnect_evaluate motor
        (SmartBlind.self >>= fun blind => SmartBlind.await
          (.writeGattChar (world.succeeds 0 .establishConnection).1 keyCharHandle blind.key) >>=
            fun _ => SmartBlind.await
              (.writeGattChar (world.succeeds 0 .establishConnection).1 setCharHandle payload))
        (world.succeeds 0 .establishConnection).1 (world.succeeds 0 .establishConnection).2
      have written := writes_evaluate motor (world.succeeds 0 .establishConnection).1 payload
        (world.succeeds 0 .establishConnection).2 refuses
      exact ⟨given.1.trans written.1, given.2.trans written.2⟩

theorem setTilt_evaluate (world : BlindWorld) :
    let ended := (SmartBlind.setTilt positionMax).evaluate motor.handler world
    let outcome := motor world.blind.candidate
    ended.1 = outcome.result world.blind.address ∧
      ended.2.blind = outcome.leaves world.blind := by
  have written := write_evaluate motor [UInt8.ofNat positionMax.toNat] world
  rw [SmartBlind.setTilt_inRange (by decide), Coroutine.evaluate_bind]
  generalize (SmartBlind.write setCharHandle [UInt8.ofNat positionMax.toNat]).evaluate
    motor.handler world = ended at written
  rcases ended with ⟨result, after⟩
  rcases written with ⟨sameResult, sameBlind⟩
  simp only at sameResult sameBlind
  subst sameResult
  cases outcome : motor world.blind.candidate with
  | success => exact ⟨rfl, congrArg (fun blind => { blind with position := positionMax }) sameBlind⟩
  | refusesConnection message => exact ⟨rfl, sameBlind⟩
  | keyWriteFails message => exact ⟨rfl, sameBlind⟩
  | positionWriteFails message => exact ⟨rfl, sameBlind⟩

/-! ## The loop -/

/-- A candidate that is tried next. -/
theorem scanCandidates_cons_evaluate (candidate : UInt8) (candidates : List UInt8)
    (world : BlindWorld) :
    let ended := (SmartBlind.scanCandidates (candidate :: candidates)).evaluate
      motor.handler world
    match motor candidate with
    | .success => ended.1 = .ok [candidate] ∧ ended.2.blind =
        { world.blind with key := [candidate], position := positionMax }
    | .keyWriteFails message | .positionWriteFails message =>
        ended.1 = .error (.bleakError message)
    | .refusesConnection _ => ∃ after : BlindWorld,
        after.blind = { world.blind with key := [candidate] } ∧
        ended = (SmartBlind.scanCandidates candidates).evaluate motor.handler after := by
  have tried := setTilt_evaluate motor
    { world with blind := { world.blind with key := [candidate] } }
  simp only [SmartBlind.scanCandidates, SmartBlind.modify, Coroutine.evaluate_bind,
    Coroutine.evaluate_tryCatch, Coroutine.evaluate_modify]
  generalize (SmartBlind.setTilt positionMax).evaluate motor.handler
    { world with blind := { world.blind with key := [candidate] } } = ended at tried
  rcases ended with ⟨result, after⟩
  rcases tried with ⟨sameResult, sameBlind⟩
  simp only [SmartBlind.candidate, List.headD_cons] at sameResult sameBlind
  subst sameResult
  cases outcome : motor candidate with
  | success =>
      rw [outcome] at sameBlind
      have sameKey : after.blind.key = [candidate] := by rw [sameBlind]; rfl
      exact ⟨congrArg Except.ok sameKey, sameBlind⟩
  | refusesConnection message =>
      rw [outcome] at sameBlind
      exact ⟨after, sameBlind, rfl⟩
  | keyWriteFails message => rfl
  | positionWriteFails message => rfl

theorem scanCandidates_refused_evaluate {refused : List UInt8}
    (refuses : ∀ candidate ∈ refused, (motor candidate).isRefusal = true)
    (candidates : List UInt8) (world : BlindWorld) :
    ∃ after : BlindWorld,
      after.blind = { world.blind with key := (refused.map ([·])).getLastD world.blind.key } ∧
      (SmartBlind.scanCandidates (refused ++ candidates)).evaluate motor.handler world =
        (SmartBlind.scanCandidates candidates).evaluate motor.handler after := by
  induction refused generalizing world with
  | nil => exact ⟨world, rfl, rfl⟩
  | cons candidate refused induction =>
      have tried := scanCandidates_cons_evaluate motor candidate (refused ++ candidates) world
      have refusal := refuses candidate (List.mem_cons_self ..)
      cases outcome : motor candidate with
      | refusesConnection message =>
          simp only [outcome] at tried
          rcases tried with ⟨next, nextBlind, passed⟩
          rcases induction (fun other member => refuses other (List.mem_cons_of_mem _ member))
            next with ⟨after, afterBlind, scanned⟩
          refine ⟨after, ?_, passed.trans scanned⟩
          rw [afterBlind, nextBlind, List.map_cons, List.getLastD_cons]
      | _ =>
          rw [outcome] at refusal
          cases refusal

/-! ## The scan -/

/-- What a scan is to do: find the smallest working key, or leave the blind as
it was. -/
def FindsKey (world : BlindWorld) : Prop :=
  let ended := motor.keyscan world
  (∀ key, motor key = .success → (∀ other, other < key → motor other ≠ .success) →
    ended.1 = .ok [key] ∧ ended.2.blind.key = [key] ∧ ended.2.blind.position = 200) ∧
  ((∀ key, motor key ≠ .success) →
    (∃ message, ended.1 = .error (.keyNotFound message)) ∧
      ended.2.blind.key = world.blind.key ∧ ended.2.blind.position = world.blind.position)

/-- Every candidate that the scan comes to without a success refuses the
connection; and a scan that ends without a success ends with the key it began
with, which is the last candidate. -/
def OnlyRefusals (world : BlindWorld) : Prop :=
  (∀ candidate, (∀ other, other ≤ candidate → motor other ≠ .success) →
    (motor candidate).isRefusal = true) ∧
  ((∃ key, motor key = .success) ∨ world.blind.key = [UInt8.ofNat keyScanLast])

end Motor

/-! ## The candidates -/

namespace SmartBlind

theorem candidate_toNat {number : Nat} (listed : number ∈ List.range' keyScanFirst 256) :
    (UInt8.ofNat number).toNat = number := by
  rw [List.mem_range'_1, keyScanFirst] at listed
  exact UInt8.toNat_ofNat_of_lt' (by simp only [UInt8.size]; omega)

theorem keyCandidates_sorted : keyCandidates.Pairwise (· < ·) := by
  apply List.pairwise_map.mpr
  have increasing : (List.range' keyScanFirst 256).Pairwise (· < ·) := List.pairwise_lt_range'
  apply increasing.imp_of_mem
  intro left right leftListed rightListed less
  rw [UInt8.lt_iff_toNat_lt, candidate_toNat leftListed, candidate_toNat rightListed]
  exact less

theorem mem_keyCandidates (candidate : UInt8) : candidate ∈ keyCandidates := by
  apply List.mem_map.mpr
  refine ⟨candidate.toNat, List.mem_range'_1.mpr ⟨Nat.zero_le _, ?_⟩, UInt8.ofNat_toNat⟩
  have bound := candidate.toNat_lt
  simp only [keyScanFirst, keyScanLast]
  omega

theorem mem_before_iff {before after : List UInt8} {candidate : UInt8}
    (split : keyCandidates = before ++ candidate :: after) (other : UInt8) :
    other ∈ before ↔ other < candidate := by
  have sorted := keyCandidates_sorted
  rw [split, List.pairwise_append] at sorted
  rcases sorted with ⟨_, laterSorted, beforeLess⟩
  constructor
  · intro member
    exact beforeLess other member candidate (List.mem_cons_self ..)
  · intro less
    have listed := mem_keyCandidates other
    rw [split, List.mem_append, List.mem_cons] at listed
    rcases listed with member | same | later
    · exact member
    · rw [same] at less
      exact absurd less (UInt8.lt_irrefl _)
    · exact absurd (UInt8.lt_trans less (List.rel_of_pairwise_cons laterSorted later))
        (UInt8.lt_irrefl _)

end SmartBlind

/-! ## The outcome of a scan -/

namespace Motor

variable (motor : Motor)

/-- The scan up to the first candidate that is not refused. -/
theorem keyscan_evaluate (world : BlindWorld) :
    let ended := motor.keyscan world
    ((∀ candidate, (motor candidate).isRefusal = true) ∧
      (∃ message, ended.1 = .error (.keyNotFound message)) ∧
      ended.2.blind = { world.blind with key := [UInt8.ofNat keyScanLast] }) ∨
    ∃ candidate, (∀ other, other < candidate → (motor other).isRefusal = true) ∧
      ((motor candidate = .success ∧ ended.1 = .ok [candidate] ∧
          ended.2.blind = { world.blind with key := [candidate], position := positionMax }) ∨
        ((motor candidate).isRefusal = false ∧ motor candidate ≠ .success ∧
          ∃ message, ended.1 = .error (.bleakError message))) := by
  cases found : SmartBlind.keyCandidates.find? (fun other => !(motor other).isRefusal) with
  | none =>
      apply Or.inl
      have refuses (candidate : UInt8) : (motor candidate).isRefusal = true := by
        simpa using List.find?_eq_none.mp found candidate (SmartBlind.mem_keyCandidates candidate)
      have allRefuse : ∀ candidate ∈ SmartBlind.keyCandidates,
          (motor candidate).isRefusal = true := fun candidate _ => refuses candidate
      rcases scanCandidates_refused_evaluate motor allRefuse [] world with
        ⟨after, afterBlind, scanned⟩
      rw [List.append_nil] at scanned
      have ended : motor.keyscan world = (.error (.keyNotFound
          ("No working key for " ++ after.blind.address)), after) := scanned
      rw [ended]
      exact ⟨refuses, ⟨_, rfl⟩, afterBlind⟩
  | some candidate =>
      apply Or.inr
      rcases List.find?_eq_some_iff_append.mp found with
        ⟨notRefused, before, rest, split, refuses⟩
      have beforeRefuse : ∀ other ∈ before, (motor other).isRefusal = true := by
        intro other member
        simpa using refuses other member
      rcases scanCandidates_refused_evaluate motor beforeRefuse (candidate :: rest) world with
        ⟨after, afterBlind, scanned⟩
      rw [← split] at scanned
      have tried := scanCandidates_cons_evaluate motor candidate rest after
      rw [← scanned] at tried
      refine ⟨candidate, ?_, ?_⟩
      · intro other less
        exact beforeRefuse other ((SmartBlind.mem_before_iff split other).mpr less)
      · cases outcome : motor candidate with
        | success =>
            rw [outcome] at tried
            exact Or.inl ⟨rfl, tried.1, by rw [keyscan, SmartBlind.keyscan, tried.2, afterBlind]⟩
        | refusesConnection message =>
            rw [outcome] at notRefused
            cases notRefused
        | keyWriteFails message =>
            rw [outcome] at tried
            exact Or.inr ⟨rfl, nofun, message, tried⟩
        | positionWriteFails message =>
            rw [outcome] at tried
            exact Or.inr ⟨rfl, nofun, message, tried⟩

theorem exists_smallest {works : UInt8 → Prop} (someWorks : ∃ key, works key) :
    ∃ key, works key ∧ ∀ other, other < key → ¬ works other := by
  rcases (measure UInt8.toNat).wf.has_min {key | works key} someWorks with
    ⟨key, keyWorks, smallest⟩
  exact ⟨key, keyWorks, fun other less otherWorks => smallest other otherWorks less⟩

/-- A scan finds the working key exactly against motors that refuse to connect
under every wrong key that is tried. -/
theorem keyscan_findsKey_iff (world : BlindWorld) :
    motor.FindsKey world ↔ motor.OnlyRefusals world := by
  have refusal_ne {candidate : UInt8} (refuses : (motor candidate).isRefusal = true) :
      motor candidate ≠ .success := by
    intro same
    rw [same] at refuses
    cases refuses
  unfold FindsKey OnlyRefusals
  rcases keyscan_evaluate motor world with
    ⟨refuses, ⟨message, notFound⟩, blind⟩ | ⟨candidate, beforeRefuse, ends⟩
  · have noSuccess (key : UInt8) : motor key ≠ .success := refusal_ne (refuses key)
    constructor
    · intro finds
      refine ⟨fun other _ => refuses other, Or.inr ?_⟩
      have sameKey := (finds.2 noSuccess).2.1
      rw [blind] at sameKey
      exact sameKey.symm
    · intro refusals
      refine ⟨fun key works => absurd works (noSuccess key), fun _ => ⟨⟨message, notFound⟩, ?_⟩⟩
      rcases refusals.2 with ⟨key, works⟩ | lastKey
      · exact absurd works (noSuccess key)
      · rw [blind, lastKey]
        exact ⟨rfl, rfl⟩
  · have beforeFails (other : UInt8) (less : other < candidate) : motor other ≠ .success :=
      refusal_ne (beforeRefuse other less)
    rcases ends with ⟨works, found, blind⟩ | ⟨notRefused, notSuccess, message, aborted⟩
    · constructor
      · intro finds
        refine ⟨?_, Or.inl ⟨candidate, works⟩⟩
        intro other noneWorks
        by_cases less : other < candidate
        · exact beforeRefuse other less
        · exact absurd works (noneWorks candidate (UInt8.not_lt.mp less))
      · intro refusals
        refine ⟨?_, fun noneWorks => absurd works (noneWorks candidate)⟩
        intro key keyWorks smallest
        have same : key = candidate := by
          rcases Nat.lt_trichotomy key.toNat candidate.toNat with less | same | greater
          · exact absurd keyWorks (beforeFails key (UInt8.lt_iff_toNat_lt.mpr less))
          · exact UInt8.toNat_inj.mp same
          · exact absurd works (smallest candidate (UInt8.lt_iff_toNat_lt.mpr greater))
        rw [same, found, blind]
        exact ⟨rfl, rfl, rfl⟩
    · constructor
      · intro finds
        by_cases someWorks : ∃ key, motor key = .success
        · rcases exists_smallest someWorks with ⟨key, keyWorks, smallest⟩
          have found := (finds.1 key keyWorks smallest).1
          rw [aborted] at found
          cases found
        · rcases (finds.2 (not_exists.mp someWorks)).1 with ⟨otherMessage, notFound⟩
          rw [aborted] at notFound
          cases notFound
      · intro refusals
        have refuses := refusals.1 candidate (fun other atMost => ?_)
        · rw [notRefused] at refuses
          cases refuses
        · by_cases same : other = candidate
          · rw [same]
            exact notSuccess
          · exact beforeFails other (UInt8.lt_of_le_of_ne atMost same)

/-- A motor that refuses the write of every key but one. -/
def guarded (key : UInt8) : Motor := fun candidate =>
  if candidate = key then .success else .keyWriteFails "Write not permitted"

/-- The scan of such a motor ends with the first key. -/
theorem keyscan_stops_at_failedWrite :
    ¬ (guarded 1).FindsKey (.initial "AA:BB:CC:DD:EE:FF" [0]) := by
  intro finds
  have smallest (other : UInt8) (less : other < 1) : guarded 1 other ≠ .success := by
    rw [guarded, if_neg (UInt8.ne_of_lt less)]
    exact nofun
  have found := (finds.1 1 rfl smallest).1
  cases found

end Motor

end SmartblindsBle
