import SmartblindsBle.Tilt.Assembler

/-! # Streams of frames

A sender cuts its frames one after another and numbers the chunks through; the
assembler of the other side gives the frames back.
-/

namespace SmartblindsBle

open Foundation

/-- The sender's next sequence number after some chunks: the one that follows
the last of them. -/
def senderSequence (startSequence : Nat) (chunks : List Bytes) : Nat :=
  chunks.foldl (fun _ chunk => sequenceAfter (chunkSequence chunk)) startSequence

/-- Cut frames one after another. -/
def chunkFrames : List Bytes → Nat → Raises (List (List Bytes))
  | [], _ => .ok []
  | frame :: frames, sequence =>
      match chunkForBle frame sequence with
      | .error error => .error error
      | .ok chunks => (chunkFrames frames (senderSequence sequence chunks)).map (chunks :: ·)

/-- What `add` is to return for the chunks of one frame: the acknowledgement of
every chunk, and the frame with the last one. -/
def deliveries (frame : Bytes) : List Bytes → List (Raises (Nat × Option Bytes))
  | [] => []
  | [last] => [.ok (chunkSequence last, some frame)]
  | chunk :: chunks => .ok (chunkSequence chunk, none) :: deliveries frame chunks

theorem deliveries_cons (frame chunk : Bytes) {chunks : List Bytes} (more : chunks ≠ []) :
    deliveries frame (chunk :: chunks) =
      .ok (chunkSequence chunk, none) :: deliveries frame chunks := by
  cases chunks with
  | nil => exact absurd rfl more
  | cons next chunks => rfl

theorem deliveries_ok (frame : Bytes) (chunks : List Bytes) :
    ∀ outcome ∈ deliveries frame chunks, ∃ result, outcome = .ok result := by
  induction chunks with
  | nil => simp [deliveries]
  | cons chunk chunks induction =>
      cases chunks with
      | nil => simp [deliveries]
      | cons next chunks =>
          intro outcome member
          rcases List.mem_cons.mp member with rfl | later
          · exact ⟨_, rfl⟩
          · exact induction outcome later

namespace BleMessageAssembler

/-- What `add` returns for each of a list of inputs. -/
def outcomes (assembler : BleMessageAssembler) : List Bytes → List (Raises (Nat × Option Bytes))
  | [] => []
  | data :: inputs => (assembler.add data).2 :: (assembler.add data).1.outcomes inputs

theorem outcomes_append (assembler : BleMessageAssembler) (first second : List Bytes) :
    assembler.outcomes (first ++ second) =
      assembler.outcomes first ++ (assembler.afterFeeding first).outcomes second := by
  induction first generalizing assembler with
  | nil => rfl
  | cons data first induction =>
      rw [List.cons_append, outcomes, outcomes, induction, List.cons_append]
      rfl

/-! ## Accepted chunks -/

theorem parseBleChunk_sequence {data : Bytes} {chunk : BleChunk}
    (parsed : parseBleChunk data = .ok chunk) : chunk.sequence = chunkSequence data := by
  unfold parseBleChunk at parsed
  split at parsed
  · split at parsed
    · cases parsed
    · simp only at parsed
      split at parsed
      · cases parsed
      · cases parsed
        rfl
  · cases parsed

theorem add_ok {assembler : BleMessageAssembler} {data : Bytes} {acknowledged : Nat}
    {message : Option Bytes} (accepted : (assembler.add data).2 = .ok (acknowledged, message)) :
    acknowledged = chunkSequence data ∧ chunkSequence data = assembler.expectedSequence ∧
      (assembler.add data).1.expectedSequence = sequenceAfter (chunkSequence data) ∧
      data.length ≤ maxBlePayload + 2 ∧
      ∃ chunk, parseBleChunk data = .ok chunk ∧ chunk.forBluetoothLayer = false := by
  cases parsed : parseBleChunk data with
  | error error => simp [add_error parsed] at accepted
  | ok chunk =>
      have facts := parseBleChunk_eq_ok parsed
      cases bluetooth : chunk.forBluetoothLayer with
      | true => simp [add_bluetooth parsed bluetooth] at accepted
      | false =>
          by_cases contiguous : chunk.sequence = assembler.expectedSequence
          · have sequence : chunk.sequence = chunkSequence data :=
              parseBleChunk_sequence parsed
            have short : data.length ≤ maxBlePayload + 2 := by
              have payloadShort := facts.2.1
              rw [facts.1, List.length_drop] at payloadShort
              omega
            rw [add_accepted parsed bluetooth contiguous] at accepted ⊢
            have acknowledges : acknowledged = chunk.sequence := by
              split at accepted <;> cases accepted <;> rfl
            refine ⟨acknowledges.trans sequence, sequence ▸ contiguous, ?_, short, chunk, rfl,
              bluetooth⟩
            rw [← sequence, contiguous]
            split <;> rfl
          · simp [add_noncontiguous parsed bluetooth contiguous] at accepted

/-- As long as every chunk is accepted, the two sides agree on the next
sequence number. -/
theorem expectedSequence_afterFeeding {assembler : BleMessageAssembler} {chunks : List Bytes}
    (accepted : ∀ outcome ∈ assembler.outcomes chunks, ∃ result, outcome = .ok result) :
    (assembler.afterFeeding chunks).expectedSequence =
      senderSequence assembler.expectedSequence chunks := by
  induction chunks generalizing assembler with
  | nil => rfl
  | cons chunk chunks induction =>
      rcases accepted _ (List.mem_cons_self ..) with ⟨⟨acknowledged, message⟩, isAccepted⟩
      have rest := induction fun outcome member =>
        accepted outcome (List.mem_cons_of_mem _ member)
      rw [(add_ok isAccepted).2.2.1] at rest
      exact rest

/-! ## Frames -/

/-- The chunks of a frame, cut at the expected sequence number, are accepted one
by one, and the last of them completes the frame. -/
theorem outcomes_chunkForBle (assembler : BleMessageAssembler) {frame : Bytes}
    (nonempty : frame ≠ []) :
    ∃ chunks, chunkForBle frame assembler.expectedSequence = .ok chunks ∧ chunks ≠ [] ∧
      assembler.outcomes chunks = deliveries (assembler.buffer ++ frame) chunks ∧
      (assembler.afterFeeding chunks).buffer = [] := by
  -- the induction follows the loop of `chunk_for_ble`, 18 bytes at a time
  induction size : frame.length using Nat.strongRecOn generalizing frame assembler with
  | _ length induction =>
      have positive := assembler.expectedSequence_pos
      have bound := assembler.expectedSequence_le
      by_cases fits : frame.length ≤ maxBlePayload
      · refine ⟨_, chunkForBle_single nonempty fits positive bound, List.cons_ne_nil _ _, ?_, ?_⟩
        · have sequence : chunkSequence (dataChunk assembler.expectedSequence true frame) =
              assembler.expectedSequence := chunkFlags_sequence bound true
          simp [outcomes, deliveries, add_dataChunk assembler true fits, sequence]
        · simp [afterFeeding, add_dataChunk assembler true fits, advance]
      · have more : maxBlePayload < frame.length := Nat.lt_of_not_le fits
        have restNonempty : frame.drop maxBlePayload ≠ [] := by
          intro isNil
          exact fits (List.drop_eq_nil_iff.mp isNil)
        have restShorter : (frame.drop maxBlePayload).length < length := by
          rw [List.length_drop, ← size]
          unfold maxBlePayload at more ⊢
          omega
        have frontFits : (frame.take maxBlePayload).length ≤ maxBlePayload :=
          List.length_take_le _ _
        have added := add_dataChunk assembler false frontFits
        have sequence : chunkSequence
            (dataChunk assembler.expectedSequence false (frame.take maxBlePayload)) =
              assembler.expectedSequence := chunkFlags_sequence bound false
        rcases induction _ restShorter
          (assembler.advance (assembler.buffer ++ frame.take maxBlePayload)) restNonempty rfl with
          ⟨chunks, cut, chunksNonempty, accepted, emptied⟩
        refine ⟨dataChunk assembler.expectedSequence false (frame.take maxBlePayload) :: chunks,
          ?_, List.cons_ne_nil _ _, ?_, ?_⟩
        · have cutRest : chunkForBle (frame.drop maxBlePayload)
              (sequenceAfter assembler.expectedSequence) = .ok chunks := cut
          rw [chunkForBle_cons more positive bound, cutRest]
          rfl
        · have whole : assembler.buffer ++ frame.take maxBlePayload ++ frame.drop maxBlePayload =
              assembler.buffer ++ frame := by
            rw [List.append_assoc, List.take_append_drop]
          rw [deliveries_cons _ _ chunksNonempty, outcomes, added, sequence, ← whole]
          exact congrArg _ accepted
        · rw [afterFeeding, List.foldl_cons, added]
          exact emptied

theorem outcomes_chunkFrames (assembler : BleMessageAssembler) (empty : assembler.buffer = [])
    {frames : List Bytes} (nonempty : ∀ frame ∈ frames, frame ≠ []) :
    ∃ chunked, chunkFrames frames assembler.expectedSequence = .ok chunked ∧
      (∀ chunks ∈ chunked, chunks ≠ []) ∧ chunked.length = frames.length ∧
      assembler.outcomes chunked.flatten = (List.zipWith deliveries frames chunked).flatten := by
  induction frames generalizing assembler with
  | nil => exact ⟨[], rfl, nofun, rfl, rfl⟩
  | cons frame frames induction =>
      rcases assembler.outcomes_chunkForBle (nonempty frame (List.mem_cons_self ..)) with
        ⟨chunks, cut, chunksNonempty, accepted, emptied⟩
      rw [empty, List.nil_append] at accepted
      have inStep := expectedSequence_afterFeeding
        (accepted ▸ deliveries_ok frame chunks)
      rcases induction (assembler.afterFeeding chunks) emptied
        (fun other member => nonempty other (List.mem_cons_of_mem frame member)) with
        ⟨chunked, cutAll, allNonempty, sameLength, acceptedAll⟩
      refine ⟨chunks :: chunked, ?_, ?_, congrArg (· + 1) sameLength, ?_⟩
      · rw [inStep] at cutAll
        rw [chunkFrames, cut]
        simp only [cutAll]
        rfl
      · intro other member
        rcases List.mem_cons.mp member with rfl | later
        · exact chunksNonempty
        · exact allNonempty other later
      · rw [List.flatten_cons, outcomes_append, accepted, acceptedAll]
        rfl

/-- Cutting frames and reassembling their chunks are inverse over whole streams:
every chunk is a data chunk of at most 20 bytes that is acknowledged with its
own sequence number, the frames come back one by one with their last chunks, and
the two sides agree on the next sequence number after every chunk. -/
theorem chunkFrames_reassembles {startSequence : Nat} (positive : 1 ≤ startSequence)
    (bound : startSequence ≤ maxSequence) {frames : List Bytes}
    (nonempty : ∀ frame ∈ frames, frame ≠ []) :
    ∃ assembler chunked, create startSequence = .ok assembler ∧
      chunkFrames frames startSequence = .ok chunked ∧
      chunked.length = frames.length ∧ (∀ chunks ∈ chunked, chunks ≠ []) ∧
      assembler.outcomes chunked.flatten = (List.zipWith deliveries frames chunked).flatten ∧
      (∀ chunk ∈ chunked.flatten, chunk.length ≤ 20 ∧
        ∃ parsed, parseBleChunk chunk = .ok parsed ∧ parsed.forBluetoothLayer = false) ∧
      ∀ before after, chunked.flatten = before ++ after →
        (assembler.afterFeeding before).expectedSequence =
          senderSequence startSequence before ∧
        ∀ chunk rest, after = chunk :: rest →
          chunkSequence chunk = senderSequence startSequence before := by
  have created : create startSequence = .ok ⟨startSequence, [], positive, bound⟩ := by
    rw [create, dif_pos ⟨positive, bound⟩]
  rcases outcomes_chunkFrames ⟨startSequence, [], positive, bound⟩ rfl nonempty with
    ⟨chunked, cut, allNonempty, sameLength, accepted⟩
  have allAccepted : ∀ outcome ∈ outcomes ⟨startSequence, [], positive, bound⟩ chunked.flatten,
      ∃ result, outcome = .ok result := by
    rw [accepted]
    intro outcome member
    rcases List.mem_flatten.mp member with ⟨delivered, isDelivered, isOutcome⟩
    rcases List.mem_iff_getElem.mp isDelivered with ⟨index, inside, rfl⟩
    rw [List.getElem_zipWith] at isOutcome
    exact deliveries_ok _ _ outcome isOutcome
  have inStep : ∀ before after, chunked.flatten = before ++ after →
      (afterFeeding ⟨startSequence, [], positive, bound⟩ before).expectedSequence =
          senderSequence startSequence before ∧
        ∀ chunk rest, after = chunk :: rest → chunk.length ≤ 20 ∧
          (∃ parsed, parseBleChunk chunk = .ok parsed ∧ parsed.forBluetoothLayer = false) ∧
          chunkSequence chunk = senderSequence startSequence before := by
    intro before after split
    rw [split, outcomes_append] at allAccepted
    have agrees := expectedSequence_afterFeeding fun outcome member =>
      allAccepted outcome (List.mem_append_left _ member)
    refine ⟨agrees, ?_⟩
    intro chunk rest isNext
    rw [isNext] at allAccepted
    rcases allAccepted _ (List.mem_append_right _ (List.mem_cons_self ..)) with
      ⟨⟨acknowledged, message⟩, isAccepted⟩
    rcases add_ok isAccepted with ⟨_, expected, _, short, isData⟩
    exact ⟨short, isData, expected.trans agrees⟩
  refine ⟨_, chunked, created, cut, sameLength, allNonempty, accepted, ?_, ?_⟩
  · intro chunk member
    rcases List.append_of_mem member with ⟨before, after, split⟩
    have facts := (inStep before (chunk :: after) split).2 chunk after rfl
    exact ⟨facts.1, facts.2.1⟩
  · intro before after split
    refine ⟨(inStep before after split).1, ?_⟩
    intro chunk rest isNext
    exact ((inStep before after split).2 chunk rest isNext).2.2

/-- Three frames from sequence number 62: the numbers wrap inside the first. -/
theorem chunkFrames_reassembles_wrapped :
    (∀ frame ∈ [List.replicate 40 7, [1, 2], List.replicate 18 9], frame ≠ ([] : Bytes)) ∧
      ∃ assembler chunked, create 62 = .ok assembler ∧
        chunkFrames [List.replicate 40 7, [1, 2], List.replicate 18 9] 62 = .ok chunked ∧
        chunked.length = 3 ∧ (∀ chunks ∈ chunked, chunks ≠ []) ∧
        assembler.outcomes chunked.flatten =
          (List.zipWith deliveries [List.replicate 40 7, [1, 2], List.replicate 18 9]
            chunked).flatten ∧
        (∀ chunk ∈ chunked.flatten, chunk.length ≤ 20 ∧
          ∃ parsed, parseBleChunk chunk = .ok parsed ∧ parsed.forBluetoothLayer = false) ∧
        ∀ before after, chunked.flatten = before ++ after →
          (assembler.afterFeeding before).expectedSequence = senderSequence 62 before ∧
          ∀ chunk rest, after = chunk :: rest →
            chunkSequence chunk = senderSequence 62 before := by
  have nonempty : ∀ frame ∈ [List.replicate 40 7, [1, 2], List.replicate 18 9],
      frame ≠ ([] : Bytes) := by decide
  exact ⟨nonempty, chunkFrames_reassembles (by decide) (by decide) nonempty⟩

end BleMessageAssembler

end SmartblindsBle
