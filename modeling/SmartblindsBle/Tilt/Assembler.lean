import SmartblindsBle.Tilt.LinkLayer

/-! # What the assembler delivers

The assembler is fed arbitrary byte strings; an exception is caught and feeding
goes on. `Reception` is the link-level account of such a history: it follows
the expected sequence number and the accepted payloads, and it notes when the
message in progress was interrupted by a foreign sequence number. A delivered
message is whole exactly when it was not interrupted.
-/

namespace SmartblindsBle

open Foundation

namespace BleMessageAssembler

/-- The assembler after a list of inputs. -/
def afterFeeding (assembler : BleMessageAssembler) (inputs : List Bytes) :
    BleMessageAssembler :=
  inputs.foldl (fun current data => (current.add data).1) assembler

/-- The payloads accepted since the last message boundary: the start, or the
acceptance of an end-of-message chunk. -/
def acceptedSinceBoundary (assembler : BleMessageAssembler) (accepted : Bytes) :
    List Bytes → Bytes
  | [] => accepted
  | data :: inputs =>
      match assembler.add data with
      | (next, .ok (_, none)) => next.acceptedSinceBoundary (accepted ++ data.drop 2) inputs
      | (next, .ok (_, some _)) => next.acceptedSinceBoundary [] inputs
      | (next, .error _) => next.acceptedSinceBoundary accepted inputs

/-- Whenever `add` returns a message, it is the concatenation of the payloads
accepted since the last boundary. -/
def DeliversWholeMessages (assembler : BleMessageAssembler) (inputs : List Bytes) : Prop :=
  ∀ before data after sequence message, inputs = before ++ data :: after →
    ((assembler.afterFeeding before).add data).2 = .ok (sequence, some message) →
      message = assembler.acceptedSinceBoundary [] before ++ data.drop 2

end BleMessageAssembler

/-! ## The link-level account -/

structure Reception where
  expectedSequence : Nat
  accepted : Bytes
  interrupted : Bool

namespace Reception

/-- Nothing received yet. -/
def start (sequence : Nat) : Reception := ⟨sequence, [], false⟩

/-- Account for one input. -/
def observe (reception : Reception) (data : Bytes) : Reception :=
  match parseBleChunk data with
  | .error _ => reception
  | .ok chunk =>
      if chunk.forBluetoothLayer then reception
      else if chunk.sequence ≠ reception.expectedSequence then
        { reception with interrupted := reception.interrupted || !reception.accepted.isEmpty }
      else if chunk.endOfMessage then start (sequenceAfter chunk.sequence)
      else
        { reception with
          expectedSequence := sequenceAfter chunk.sequence
          accepted := reception.accepted ++ chunk.payload }

/-- The input is the expected chunk and ends the message. -/
def CompletedBy (reception : Reception) (data : Bytes) : Prop :=
  ∃ payload, parseBleChunk data = .ok ⟨reception.expectedSequence, true, false, payload⟩

/-- No message is completed after an interruption in its middle. -/
def CompletesUninterrupted (sequence : Nat) (inputs : List Bytes) : Prop :=
  ∀ before data after, inputs = before ++ data :: after →
    (before.foldl observe (start sequence)).CompletedBy data →
      (before.foldl observe (start sequence)).interrupted = false

/-- The account agrees with an assembler: the buffer is what was accepted,
except that an interruption has removed a non-empty part from its front. -/
structure Tracks (reception : Reception) (assembler : BleMessageAssembler) : Prop where
  expectedSequence : reception.expectedSequence = assembler.expectedSequence
  whole : reception.interrupted = false → assembler.buffer = reception.accepted
  cut : reception.interrupted = true →
    ∃ lost, lost ≠ [] ∧ reception.accepted = lost ++ assembler.buffer

theorem Tracks.buffer_eq_iff {reception : Reception} {assembler : BleMessageAssembler}
    (tracks : reception.Tracks assembler) :
    assembler.buffer = reception.accepted ↔ reception.interrupted = false := by
  constructor
  · intro same
    by_contra interrupted
    rcases tracks.cut (by simpa using interrupted) with ⟨lost, nonempty, front⟩
    rw [same] at front
    exact nonempty (List.self_eq_append_left.mp front)
  · exact tracks.whole

theorem Tracks.observe_noncontiguous {reception : Reception} {assembler : BleMessageAssembler}
    (tracks : reception.Tracks assembler) :
    { reception with
      interrupted := reception.interrupted || !reception.accepted.isEmpty }.Tracks
        assembler.clear := by
  refine ⟨tracks.expectedSequence, ?_, ?_⟩
  · intro uninterrupted
    simp only [Bool.or_eq_false_iff, Bool.not_eq_false', List.isEmpty_iff] at uninterrupted
    exact uninterrupted.2.symm
  · intro interrupted
    refine ⟨reception.accepted, ?_, (List.append_nil _).symm⟩
    simp only [Bool.or_eq_true, Bool.not_eq_true', List.isEmpty_eq_false_iff] at interrupted
    rcases interrupted with already | begun
    · rcases tracks.cut already with ⟨lost, nonempty, front⟩
      simp [front, nonempty]
    · exact begun

theorem Tracks.observe_more {reception : Reception} {assembler : BleMessageAssembler}
    (tracks : reception.Tracks assembler) (payload : Bytes) :
    { reception with
      expectedSequence := sequenceAfter reception.expectedSequence
      accepted := reception.accepted ++ payload }.Tracks
        (assembler.advance (assembler.buffer ++ payload)) := by
  refine ⟨congrArg sequenceAfter tracks.expectedSequence, ?_, ?_⟩
  · intro uninterrupted
    exact congrArg (· ++ payload) (tracks.whole uninterrupted)
  · intro interrupted
    rcases tracks.cut interrupted with ⟨lost, nonempty, front⟩
    refine ⟨lost, nonempty, ?_⟩
    simp [BleMessageAssembler.advance, front]

/-- One input keeps the account in agreement, and its outcome is the one the
account predicts. -/
theorem Tracks.observe {reception : Reception} {assembler : BleMessageAssembler}
    (tracks : reception.Tracks assembler) (data : Bytes) :
    (reception.observe data).Tracks (assembler.add data).1 ∧
      (reception.observe data).accepted =
        match (assembler.add data).2 with
        | .ok (_, none) => reception.accepted ++ data.drop 2
        | .ok (_, some _) => []
        | .error _ => reception.accepted := by
  unfold Reception.observe
  cases parsed : parseBleChunk data with
  | error error => simpa [BleMessageAssembler.add_error parsed] using tracks
  | ok chunk =>
      have payloadIs := (parseBleChunk_eq_ok parsed).1
      cases bluetooth : chunk.forBluetoothLayer with
      | true => simpa [BleMessageAssembler.add_bluetooth parsed bluetooth, bluetooth] using tracks
      | false =>
          by_cases contiguous : chunk.sequence = reception.expectedSequence
          · rw [BleMessageAssembler.add_accepted parsed bluetooth
              (contiguous.trans tracks.expectedSequence)]
            cases ends : chunk.endOfMessage with
            | true =>
                simp only [bluetooth, ends, contiguous, Bool.false_eq_true, ne_eq,
                  not_true_eq_false, Bool.true_eq_false, reduceIte]
                exact ⟨⟨congrArg sequenceAfter tracks.expectedSequence, fun _ => rfl,
                  fun impossible => nomatch impossible⟩, rfl⟩
            | false =>
                simp only [bluetooth, ends, contiguous, Bool.false_eq_true, ne_eq,
                  not_true_eq_false, reduceIte, ← payloadIs]
                exact ⟨tracks.observe_more chunk.payload, trivial⟩
          · rw [BleMessageAssembler.add_noncontiguous parsed bluetooth
              (fun same => contiguous (same.trans tracks.expectedSequence.symm))]
            simp only [bluetooth, contiguous, Bool.false_eq_true, ne_eq, not_false_eq_true,
              reduceIte]
            exact ⟨tracks.observe_noncontiguous, trivial⟩

theorem Tracks.foldl {reception : Reception} {assembler : BleMessageAssembler}
    (tracks : reception.Tracks assembler) (inputs : List Bytes) :
    (inputs.foldl Reception.observe reception).Tracks (assembler.afterFeeding inputs) ∧
      (inputs.foldl Reception.observe reception).accepted =
        assembler.acceptedSinceBoundary reception.accepted inputs := by
  induction inputs generalizing reception assembler with
  | nil => exact ⟨tracks, rfl⟩
  | cons data inputs induction =>
      have stepped := tracks.observe data
      have rest := induction stepped.1
      refine ⟨rest.1, rest.2.trans ?_⟩
      rw [stepped.2, BleMessageAssembler.acceptedSinceBoundary]
      rcases assembler.add data with ⟨next, error | ⟨sequence, _ | message⟩⟩ <;> rfl

/-- An accepted end-of-message chunk is the only way to a message, which is the
buffer and the chunk's payload. -/
theorem Tracks.completedBy_iff {reception : Reception} {assembler : BleMessageAssembler}
    (tracks : reception.Tracks assembler) (data : Bytes) :
    reception.CompletedBy data ↔
      ∃ sequence message, (assembler.add data).2 = .ok (sequence, some message) := by
  unfold CompletedBy
  cases parsed : parseBleChunk data with
  | error error => simp [BleMessageAssembler.add_error parsed]
  | ok chunk =>
      cases bluetooth : chunk.forBluetoothLayer with
      | true =>
          rw [BleMessageAssembler.add_bluetooth parsed bluetooth]
          rcases chunk with ⟨sequence, ends, isBluetooth, payload⟩
          cases bluetooth
          simp
      | false =>
          rcases chunk with ⟨sequence, ends, isBluetooth, payload⟩
          cases bluetooth
          by_cases contiguous : sequence = assembler.expectedSequence
          · rw [BleMessageAssembler.add_accepted parsed rfl contiguous]
            cases ends <;> simp [tracks.expectedSequence, contiguous]
          · rw [BleMessageAssembler.add_noncontiguous parsed rfl contiguous]
            simp [tracks.expectedSequence, contiguous]

end Reception

namespace BleMessageAssembler

theorem add_message {assembler : BleMessageAssembler} {data message : Bytes} {sequence : Nat}
    (delivered : (assembler.add data).2 = .ok (sequence, some message)) :
    message = assembler.buffer ++ data.drop 2 := by
  cases parsed : parseBleChunk data with
  | error error => simp [add_error parsed] at delivered
  | ok chunk =>
      cases bluetooth : chunk.forBluetoothLayer with
      | true => simp [add_bluetooth parsed bluetooth] at delivered
      | false =>
          by_cases contiguous : chunk.sequence = assembler.expectedSequence
          · rw [add_accepted parsed bluetooth contiguous, (parseBleChunk_eq_ok parsed).1]
              at delivered
            cases ends : chunk.endOfMessage <;> simp [ends] at delivered
            exact delivered.2.symm
          · simp [add_noncontiguous parsed bluetooth contiguous] at delivered

theorem create_tracks {sequence : Nat} {assembler : BleMessageAssembler}
    (created : create sequence = .ok assembler) :
    (Reception.start sequence).Tracks assembler := by
  unfold create at created
  split at created
  · cases created
    exact ⟨rfl, fun _ => rfl, nofun⟩
  · cases created

/-- For every start sequence and every history, the assembler delivers only
whole messages exactly when no message is completed after a chunk with a
foreign sequence number arrived in its middle. Such a chunk clears the buffer
but not the expected sequence, so the rest of the message is then delivered
without its beginning. -/
theorem deliversWholeMessages_iff {sequence : Nat} {assembler : BleMessageAssembler}
    (created : create sequence = .ok assembler) (inputs : List Bytes) :
    assembler.DeliversWholeMessages inputs ↔
      Reception.CompletesUninterrupted sequence inputs := by
  have tracksBefore := fun before : List Bytes => (create_tracks created).foldl before
  constructor
  · intro whole before data after split completed
    rcases tracksBefore before with ⟨tracks, accepted⟩
    rcases (tracks.completedBy_iff data).mp completed with ⟨last, message, delivered⟩
    have isWhole := whole before data after last message split delivered
    rw [add_message delivered] at isWhole
    have sameFront := List.append_cancel_right isWhole
    exact tracks.buffer_eq_iff.mp (sameFront.trans accepted.symm)
  · intro uninterrupted before data after last message split delivered
    rcases tracksBefore before with ⟨tracks, accepted⟩
    have completed := (tracks.completedBy_iff data).mpr ⟨last, message, delivered⟩
    have isWhole := tracks.buffer_eq_iff.mpr (uninterrupted before data after split completed)
    rw [add_message delivered, isWhole, accepted]
    rfl

theorem deliversWholeMessages_iff_twoChunks :
    initial.DeliversWholeMessages [dataChunk 1 false [0xA1], dataChunk 2 true [0xB2]] ↔
      Reception.CompletesUninterrupted 1 [dataChunk 1 false [0xA1], dataChunk 2 true [0xB2]] :=
  deliversWholeMessages_iff rfl _

/-- After chunk 1, a stray chunk 3 clears the buffer; chunk 2 is then accepted
and delivered alone. -/
theorem delivers_message_without_beginning :
    ¬initial.DeliversWholeMessages
      [dataChunk 1 false [0xA1], dataChunk 3 false [0xC3], dataChunk 2 true [0xB2]] := by
  intro whole
  have isWhole := whole [dataChunk 1 false [0xA1], dataChunk 3 false [0xC3]]
    (dataChunk 2 true [0xB2]) [] 2 [0xB2] rfl (by decide)
  revert isWhole
  decide

end BleMessageAssembler

end SmartblindsBle
