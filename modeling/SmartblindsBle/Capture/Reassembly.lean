import SmartblindsBle.Capture.PacketLog
import SmartblindsBle.Foundation.Interleaving

/-! # ATT messages from ACL fragments

A message is framed by its length and its channel, and the frame is cut into
fragments. One table holds what has been received of a frame on each connection.
-/

namespace SmartblindsBle

open Foundation

namespace Capture

def attCid : Nat := 0x0004
def smpCid : Nat := 0x0006

/-- `b"\x00SMP:"`. -/
def smpTag : Bytes := [0x00, 0x53, 0x4D, 0x50, 0x3A]

/-- An entry of the reassembly table. -/
structure Reassembly where
  cid : Nat
  need : Nat
  data : Bytes
  deriving DecidableEq, Repr

/-- `reasm`, by connection. -/
abbrev ReassemblyTable := Nat → Option Reassembly

namespace Reassembly

/-- The value that is returned for a complete frame. -/
def pdu (buf : Reassembly) : Option Bytes :=
  if buf.cid = attCid then some (buf.data.take buf.need)
  else if buf.cid = smpCid then some (smpTag ++ buf.data.take buf.need)
  else none

/-- The end of `att_from_acl`: a complete frame leaves the table. -/
def deliver (buf : Reassembly) (conn : Nat) (reasm : ReassemblyTable) :
    Option Bytes × ReassemblyTable :=
  if buf.data.length ≥ buf.need then (buf.pdu, Function.update reasm conn none)
  else (none, Function.update reasm conn (some buf))

end Reassembly

def attFromAcl (payload : Bytes) (reasm : ReassemblyTable) : Option Bytes × ReassemblyTable :=
  if payload.length < 4 then (none, reasm)
  else
    let handleFlags := ofLittleEndian (payload.take 2)
    let aclLen := ofLittleEndian ((payload.drop 2).take 2)
    let conn := handleFlags &&& 0x0FFF
    let pb := (handleFlags >>> 12) &&& 0x3
    let data := (payload.take (4 + aclLen)).drop 4
    if pb = 0x1 then
      match reasm conn with
      | none => (none, reasm)
      | some buf => { buf with data := buf.data ++ data }.deliver conn reasm
    else if data.length < 4 then (none, reasm)
    else
      let l2Len := ofLittleEndian (data.take 2)
      let cid := ofLittleEndian ((data.drop 2).take 2)
      { cid := cid, need := l2Len, data := data.drop 4 : Reassembly }.deliver conn reasm

/-- The values of `att_from_acl` on the records of one type, with one table. -/
def attPdus (ptype : UInt8) (records : List (UInt8 × Bytes)) : List (Option Bytes) :=
  outputs (fun reasm payload => attFromAcl payload reasm) (fun _ => none)
    ((records.filter (·.1 = ptype)).map Prod.snd)

/-! ## Fragments -/

structure AclFragment where
  handle : Nat
  boundary : Nat
  broadcast : Nat
  data : Bytes
  handle_lt : handle < 2 ^ 12
  boundary_lt : boundary < 2 ^ 2
  broadcast_lt : broadcast < 2 ^ 2
  data_lt : data.length < 2 ^ 16

namespace AclFragment

def bytes (fragment : AclFragment) : Bytes :=
  toLittleEndian 2 (fragment.handle + 2 ^ 12 * (fragment.boundary + 2 ^ 2 * fragment.broadcast)) ++
    (toLittleEndian 2 fragment.data.length ++ fragment.data)

/-- The connection, and what is sent on it. -/
def input (fragment : AclFragment) : Nat × Nat × Bytes :=
  (fragment.handle, fragment.boundary, fragment.data)

end AclFragment

/-- What becomes of an entry: a complete frame is returned and forgotten. -/
def Reassembly.complete (buf : Reassembly) : Option Bytes × Option Reassembly :=
  if buf.data.length ≥ buf.need then (buf.pdu, none) else (none, some buf)

/-- The entry of a frame that starts with these bytes. -/
def Reassembly.start (data : Bytes) : Reassembly where
  cid := ofLittleEndian ((data.drop 2).take 2)
  need := ofLittleEndian (data.take 2)
  data := data.drop 4

/-- The reassembly of one connection, from the flag and the data of a fragment. -/
def reassemble (entry : Option Reassembly) (fragment : Nat × Bytes) :
    Option Bytes × Option Reassembly :=
  if fragment.1 = 1 then
    match entry with
    | none => (none, none)
    | some buf => { buf with data := buf.data ++ fragment.2 : Reassembly }.complete
  else if fragment.2.length < 4 then (none, entry)
  else (Reassembly.start fragment.2).complete

namespace AclFragment

theorem flags_and (fragment : AclFragment) :
    (fragment.handle + 2 ^ 12 * (fragment.boundary + 2 ^ 2 * fragment.broadcast)) &&& 0x0FFF =
      fragment.handle := by
  have handleBound := fragment.handle_lt
  rw [show (0x0FFF : Nat) = 2 ^ 12 - 1 from rfl, Nat.and_two_pow_sub_one_eq_mod]
  omega

theorem flags_shift (fragment : AclFragment) :
    ((fragment.handle + 2 ^ 12 * (fragment.boundary + 2 ^ 2 * fragment.broadcast)) >>> 12) &&&
      0x3 = fragment.boundary := by
  have handleBound := fragment.handle_lt
  have boundaryBound := fragment.boundary_lt
  rw [show (0x3 : Nat) = 2 ^ 2 - 1 from rfl, Nat.and_two_pow_sub_one_eq_mod,
    Nat.shiftRight_eq_div_pow]
  omega

theorem flags_bytes (fragment : AclFragment) :
    ofLittleEndian (fragment.bytes.take 2) =
      fragment.handle + 2 ^ 12 * (fragment.boundary + 2 ^ 2 * fragment.broadcast) := by
  have handleBound := fragment.handle_lt
  have boundaryBound := fragment.boundary_lt
  have broadcastBound := fragment.broadcast_lt
  rw [bytes, List.take_left' (toLittleEndian_length ..), ofLittleEndian_toLittleEndian]
  omega

theorem length_bytes (fragment : AclFragment) :
    ofLittleEndian ((fragment.bytes.drop 2).take 2) = fragment.data.length := by
  have inWidth : fragment.data.length < 256 ^ 2 := fragment.data_lt
  rw [bytes, List.drop_left' (toLittleEndian_length ..),
    List.take_left' (toLittleEndian_length ..), ofLittleEndian_toLittleEndian,
    Nat.mod_eq_of_lt inWidth]

theorem bytes_length (fragment : AclFragment) :
    fragment.bytes.length = 4 + fragment.data.length := by
  simp only [bytes, List.length_append, toLittleEndian_length]
  omega

theorem data_bytes (fragment : AclFragment) :
    (fragment.bytes.take (4 + fragment.data.length)).drop 4 = fragment.data := by
  have header (flags length : Nat) :
      (toLittleEndian 2 flags ++ toLittleEndian 2 length).length = 4 := by
    rw [List.length_append, toLittleEndian_length, toLittleEndian_length]
  rw [← bytes_length, List.take_length, bytes, ← List.append_assoc, List.drop_left' (header _ _)]

end AclFragment

theorem Reassembly.deliver_eq (buf : Reassembly) (conn : Nat) (reasm : ReassemblyTable) :
    buf.deliver conn reasm = (buf.complete.1, Function.update reasm conn buf.complete.2) := by
  unfold deliver complete
  split <;> rfl

theorem attFromAcl_bytes (reasm : ReassemblyTable) (fragment : AclFragment) :
    attFromAcl fragment.bytes reasm = tableStep reassemble reasm fragment.input := by
  have header : ¬ fragment.bytes.length < 4 := by
    rw [fragment.bytes_length]
    omega
  -- Nothing is stored where nothing is moved.
  have unmoved : Function.update reasm fragment.handle (reasm fragment.handle) = reasm :=
    Function.update_eq_self ..
  rw [attFromAcl, if_neg header]
  simp only [fragment.flags_bytes, fragment.flags_and, fragment.flags_shift,
    fragment.length_bytes, fragment.data_bytes, Reassembly.deliver_eq]
  unfold tableStep reassemble AclFragment.input
  by_cases continues : fragment.boundary = 1
  · cases entry : reasm fragment.handle with
    | none =>
        rw [entry] at unmoved
        simp [continues, unmoved]
    | some buf => simp [continues]
  · by_cases short : fragment.data.length < 4
    · simp [continues, short]
    · simp [continues, short, Reassembly.start]

/-! ## Messages -/

/-- A PDU behind its length and its channel. -/
def l2capFrame (pdu : Bytes) : Bytes :=
  toLittleEndian 2 pdu.length ++ (toLittleEndian 2 attCid ++ pdu)

/-- A PDU in the fragments of its frame. -/
structure AttMessage (handle : Nat) where
  pdu : Bytes
  start : AclFragment
  continuations : List AclFragment
  pdu_lt : pdu.length < 2 ^ 16
  onConnection : ∀ fragment ∈ start :: continuations, fragment.handle = handle
  starts : start.boundary ≠ 1
  header : 4 ≤ start.data.length
  continues : ∀ fragment ∈ continuations, fragment.boundary = 1 ∧ fragment.data ≠ []
  framed : start.data ++ continuations.flatMap AclFragment.data = l2capFrame pdu

namespace AttMessage

variable {handle : Nat}

def fragments (message : AttMessage handle) : List AclFragment :=
  message.start :: message.continuations

/-- What is returned at the fragments: the PDU at the last one. -/
def returned (message : AttMessage handle) : List (Option Bytes) :=
  List.replicate message.continuations.length none ++ [some message.pdu]

end AttMessage

/-- The continuations of a frame of which something is missing. -/
theorem outputs_continuations {need : Nat} (got first : Bytes) (rest : List Bytes)
    (nonempty : ∀ data ∈ first :: rest, data ≠ [])
    (whole : (got ++ (first :: rest).flatten).length = need) :
    outputs reassemble (some ⟨attCid, need, got⟩) ((first :: rest).map (1, ·)) =
        List.replicate rest.length none ++ [some (got ++ (first :: rest).flatten)] ∧
      afterInputs reassemble (some ⟨attCid, need, got⟩) ((first :: rest).map (1, ·)) = none := by
  induction rest generalizing got first with
  | nil =>
      have complete : reassemble (some ⟨attCid, need, got⟩) (1, first) =
          (some (got ++ first), none) := by
        have sameLength : (got ++ first).length = need := by simpa using whole
        have everything : (got ++ first).take need = got ++ first :=
          List.take_of_length_le (Nat.le_of_eq sameLength)
        have enough : need ≤ got.length + first.length := by
          rw [← sameLength, List.length_append]
        simp [reassemble, Reassembly.complete, Reassembly.pdu, everything, enough]
      simp [outputs, afterInputs, complete]
  | cons next rest induction =>
      have more := List.length_pos_of_ne_nil (nonempty next (by simp))
      have incomplete : reassemble (some ⟨attCid, need, got⟩) (1, first) =
          (none, some ⟨attCid, need, got ++ first⟩) := by
        have missing : ¬ need ≤ got.length + first.length := by
          simp only [List.flatten_cons, List.length_append] at whole
          omega
        simp [reassemble, Reassembly.complete, missing]
      have later := induction (got ++ first) next
        (fun data member => nonempty data (List.mem_cons_of_mem _ member))
        (by simpa using whole)
      rw [List.map_cons, outputs, afterInputs, List.foldl_cons, incomplete]
      constructor
      · rw [later.1]
        simp [List.replicate_succ]
      · exact later.2

namespace AttMessage

variable {handle : Nat}

theorem start_reassembly (message : AttMessage handle) :
    Reassembly.start message.start.data =
      ⟨attCid, message.pdu.length, message.start.data.drop 4⟩ := by
  have header := message.header
  have lengthBound : message.pdu.length < 256 ^ 2 := message.pdu_lt
  have split : l2capFrame message.pdu =
      (toLittleEndian 2 message.pdu.length ++ toLittleEndian 2 attCid) ++ message.pdu :=
    (List.append_assoc ..).symm
  have front : message.start.data.take 4 =
      toLittleEndian 2 message.pdu.length ++ toLittleEndian 2 attCid := by
    have same := congrArg (List.take 4) (message.framed.trans split)
    rw [List.take_append_of_le_length header, List.take_left' (by simp)] at same
    exact same
  have lengthField : message.start.data.take 2 = toLittleEndian 2 message.pdu.length := by
    have same := congrArg (List.take 2) front
    rwa [List.take_take, List.take_left' (toLittleEndian_length ..)] at same
  have channelField : (message.start.data.drop 2).take 2 = toLittleEndian 2 attCid := by
    have same := congrArg (List.drop 2) front
    rwa [List.drop_take, List.drop_left' (toLittleEndian_length ..)] at same
  rw [Reassembly.start, lengthField, channelField, ofLittleEndian_toLittleEndian,
    ofLittleEndian_toLittleEndian, Nat.mod_eq_of_lt lengthBound]
  rfl

theorem payload (message : AttMessage handle) :
    message.start.data.drop 4 ++ (message.continuations.map AclFragment.data).flatten =
      message.pdu := by
  have split : l2capFrame message.pdu =
      (toLittleEndian 2 message.pdu.length ++ toLittleEndian 2 attCid) ++ message.pdu :=
    (List.append_assoc ..).symm
  have same := congrArg (List.drop 4) (message.framed.trans split)
  rwa [List.drop_append_of_le_length message.header, List.drop_left' (by simp),
    List.flatMap_def] at same

theorem continuation_inputs (message : AttMessage handle) :
    (message.continuations.map AclFragment.input).map Prod.snd =
      (message.continuations.map AclFragment.data).map (1, ·) := by
  rw [List.map_map, List.map_map]
  apply List.map_congr_left
  intro fragment member
  have flag := (message.continues fragment member).1
  simp [AclFragment.input, flag]

/-- A message is returned at its last fragment, and nothing of it is left. -/
theorem outputs_fragments (message : AttMessage handle) (entry : Option Reassembly) :
    outputs reassemble entry ((message.fragments.map AclFragment.input).map Prod.snd) =
        message.returned ∧
      afterInputs reassemble entry ((message.fragments.map AclFragment.input).map Prod.snd) =
        none := by
  have payload := message.payload
  have started : reassemble entry message.start.input.2 =
      Reassembly.complete ⟨attCid, message.pdu.length, message.start.data.drop 4⟩ := by
    have long : ¬ message.start.data.length < 4 := Nat.not_lt.mpr message.header
    unfold reassemble AclFragment.input
    rw [if_neg message.starts, if_neg long, message.start_reassembly]
  rw [fragments, List.map_cons, List.map_cons, message.continuation_inputs, outputs, afterInputs,
    List.foldl_cons, started, returned]
  cases continuations : message.continuations with
  | nil =>
      rw [continuations, List.map_nil, List.flatten_nil, List.append_nil] at payload
      rw [payload]
      simp [Reassembly.complete, Reassembly.pdu, outputs]
  | cons first rest =>
      have nonempty : ∀ data ∈ (first :: rest).map AclFragment.data, data ≠ [] := by
        intro data member
        rcases List.mem_map.mp member with ⟨fragment, isContinuation, rfl⟩
        exact (message.continues fragment (continuations ▸ isContinuation)).2
      have more := List.length_pos_of_ne_nil (nonempty first.data (by simp))
      rw [continuations] at payload
      have whole := congrArg List.length payload
      have incomplete :
          Reassembly.complete ⟨attCid, message.pdu.length, message.start.data.drop 4⟩ =
            (none, some ⟨attCid, message.pdu.length, message.start.data.drop 4⟩) := by
        apply if_neg
        rw [List.length_append, List.map_cons, List.flatten_cons, List.length_append] at whole
        simp only [ge_iff_le, Nat.not_le]
        omega
      have later := outputs_continuations (message.start.data.drop 4) first.data
        (rest.map AclFragment.data) nonempty whole
      rw [incomplete]
      constructor
      · rw [List.map_cons, later.1, ← List.map_cons, payload, List.length_map, List.length_cons,
          List.replicate_succ, List.cons_append]
      · exact later.2

end AttMessage

/-! ## Traffic -/

/-- The fragments of one direction, in the order of each connection. -/
structure Traffic where
  fragments : List AclFragment
  messages : (handle : Nat) → List (AttMessage handle)
  inOrder : ∀ handle, fragments.filter (·.handle = handle) =
    (messages handle).flatMap AttMessage.fragments

namespace Traffic

/-- The values at the fragments of one connection. -/
def valuesOn (traffic : Traffic) (handle : Nat) (values : List (Option Bytes)) :
    List (Option Bytes) :=
  inputsOf handle ((traffic.fragments.map AclFragment.handle).zip values)

theorem inputsOf_fragments (traffic : Traffic) (handle : Nat) :
    inputsOf handle (traffic.fragments.map AclFragment.input) =
      (traffic.messages handle).flatMap fun message =>
        (message.fragments.map AclFragment.input).map Prod.snd := by
  have own : (fun input : Nat × Nat × Bytes => decide (input.1 = handle)) ∘ AclFragment.input =
      fun fragment => decide (fragment.handle = handle) := rfl
  rw [inputsOf, List.filter_map, own, traffic.inOrder, List.map_flatMap, List.map_flatMap]

/-- On each connection, every message is returned at its last fragment. -/
theorem valuesOn_outputs (traffic : Traffic) (handle : Nat) :
    traffic.valuesOn handle
        (outputs (tableStep reassemble) (fun _ => none)
          (traffic.fragments.map AclFragment.input)) =
      (traffic.messages handle).flatMap AttMessage.returned := by
  have connections : traffic.fragments.map AclFragment.handle =
      (traffic.fragments.map AclFragment.input).map Prod.fst := by
    rw [List.map_map]
    rfl
  rw [valuesOn, connections, outputs_tableStep, traffic.inputsOf_fragments]
  apply outputs_flatMap
  intro message _
  exact message.outputs_fragments none

end Traffic

theorem attPdus_fragments {ptype : UInt8} {records : List (UInt8 × Bytes)} {traffic : Traffic}
    (sent : (records.filter (·.1 = ptype)).map Prod.snd =
      traffic.fragments.map AclFragment.bytes) :
    attPdus ptype records =
      outputs (tableStep reassemble) (fun _ => none)
        (traffic.fragments.map AclFragment.input) := by
  rw [attPdus, sent]
  exact outputs_map_congr attFromAcl_bytes _ _

theorem filterMap_returned {handle : Nat} (messages : List (AttMessage handle)) :
    (messages.flatMap AttMessage.returned).filterMap id = messages.map AttMessage.pdu := by
  induction messages with
  | nil => rfl
  | cons message messages induction =>
      rw [List.flatMap_cons, List.filterMap_append, induction]
      simp [AttMessage.returned]

/-- The records of a capture that may be cut off are the complete ones, and from the
fragments of one direction among them each connection's messages are returned, each at
its last fragment. -/
theorem records_reconstruct (capture : List PacketRecord) {cut : Bytes} (cutOff : CutOff cut)
    (direction : UInt8) (traffic : Traffic)
    (sent : (capture.filter (·.ptype = direction)).map PacketRecord.payload =
      traffic.fragments.map AclFragment.bytes) :
    let read := records (capture.flatMap PacketRecord.bytes ++ cut)
    read = capture.map (fun record => (record.ptype, record.payload)) ∧
      (attPdus direction read).length = traffic.fragments.length ∧
      ∀ handle,
        traffic.valuesOn handle (attPdus direction read) =
            (traffic.messages handle).flatMap AttMessage.returned ∧
          (traffic.valuesOn handle (attPdus direction read)).filterMap id =
            (traffic.messages handle).map AttMessage.pdu := by
  intro read
  have complete : read = capture.map fun record => (record.ptype, record.payload) :=
    records_flatMap capture cutOff
  have payloads : (read.filter (·.1 = direction)).map Prod.snd =
      traffic.fragments.map AclFragment.bytes := by
    rw [complete, List.filter_map, List.map_map]
    exact sent
  have values := attPdus_fragments payloads
  have onConnection (handle : Nat) := traffic.valuesOn_outputs handle
  rw [← values] at onConnection
  refine ⟨complete, ?_, ?_⟩
  · rw [values, outputs_length, List.length_map]
  · intro handle
    rw [onConnection handle]
    exact ⟨rfl, filterMap_returned _⟩

/-! ### Two connections -/

/-- A fragment on one of the first connections. -/
def smallFragment (handle : Fin 3) (boundary : Fin 3) (data : Bytes)
    (short : data.length < 2 ^ 16) : AclFragment where
  handle := handle
  boundary := boundary
  broadcast := 0
  data := data
  handle_lt := by omega
  boundary_lt := by omega
  broadcast_lt := by decide
  data_lt := short

/-- A read request whose first fragment is the header of the frame. -/
def readRequest : AttMessage 1 where
  pdu := [0x0A, 0x03, 0x00]
  start := smallFragment 1 2 [0x03, 0x00, 0x04, 0x00] (by decide)
  continuations := [smallFragment 1 1 [0x0A, 0x03, 0x00] (by decide)]
  pdu_lt := by decide
  onConnection := by decide
  starts := by decide
  header := by decide
  continues := by decide
  framed := by decide

def writeCommand : AttMessage 2 where
  pdu := [0x52, 0x05, 0x00, 0x09]
  start := smallFragment 2 0 [0x04, 0x00, 0x04, 0x00, 0x52] (by decide)
  continuations := [smallFragment 2 1 [0x05, 0x00, 0x09] (by decide)]
  pdu_lt := by decide
  onConnection := by decide
  starts := by decide
  header := by decide
  continues := by decide
  framed := by decide

def twoConnections : Traffic where
  fragments := [readRequest.start, writeCommand.start] ++ writeCommand.continuations ++
    readRequest.continuations
  messages
    | 1 => [readRequest]
    | 2 => [writeCommand]
    | _ => []
  inOrder
    | 0 => rfl
    | 1 => rfl
    | 2 => rfl
    | _ + 3 => rfl

def sentRecord (ptype : UInt8) (payload : Bytes) (short : payload.length < 2 ^ 16) :
    PacketRecord where
  timestamp := List.replicate 8 0
  ptype := ptype
  payload := payload
  timestamp_length := by decide
  fits := by omega

/-- A received record stands between the sent ones. -/
def twoConnectionsCapture : List PacketRecord :=
  [sentRecord 2 readRequest.start.bytes (by decide),
    sentRecord 2 writeCommand.start.bytes (by decide),
    sentRecord 3 [0x01] (by decide),
    sentRecord 2 (smallFragment 2 1 [0x05, 0x00, 0x09] (by decide)).bytes (by decide),
    sentRecord 2 (smallFragment 1 1 [0x0A, 0x03, 0x00] (by decide)).bytes (by decide)]

theorem records_reconstruct_twoConnections :
    let read := records (twoConnectionsCapture.flatMap PacketRecord.bytes ++ [0x0A, 0x00])
    twoConnections.valuesOn 1 (attPdus 2 read) = [none, some [0x0A, 0x03, 0x00]] ∧
      twoConnections.valuesOn 2 (attPdus 2 read) = [none, some [0x52, 0x05, 0x00, 0x09]] := by
  have cutOff : CutOff [0x0A, 0x00] := by
    refine ⟨sentRecord 2 [0x01] (by decide), (sentRecord 2 [0x01] (by decide)).bytes.drop 2, ?_⟩
    decide
  have reconstructed :=
    records_reconstruct twoConnectionsCapture cutOff 2 twoConnections (by decide)
  exact ⟨(reconstructed.2.2 1).1, (reconstructed.2.2 2).1⟩

end Capture

end SmartblindsBle
