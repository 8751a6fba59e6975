import SmartblindsBle.Capture.Transcript

/-! # What a transcript holds

The messages of both directions are printed in the order in which they are complete,
each once, and the summary counts exactly these.
-/

namespace SmartblindsBle

open Foundation

namespace Capture

/-! ## The messages of a capture -/

/-- The connection that a payload names. -/
def connection (payload : Bytes) : Nat := ofLittleEndian (payload.take 2) &&& 0x0FFF

/-- A table as a machine, which returns its messages with their connections. -/
def receive (table : ReassemblyTable) (payload : Bytes) :
    Option (Nat × Bytes) × ReassemblyTable :=
  let returned := attFromAcl payload table
  ((returned.1.filter (· ≠ [])).map (connection payload, ·), returned.2)

/-- The payloads of both directions. -/
def arrivals (read : List (UInt8 × Bytes)) : List (Direction × Bytes) :=
  read.filterMap fun record => (Direction.ofPtype? record.1).map (·, record.2)

/-- The messages, with their direction and connection, in the order in which they are
complete. -/
def completedFrom (reasm : Direction → ReassemblyTable) (arrived : List (Direction × Bytes)) :
    List ((Direction × Nat) × Bytes) :=
  ((arrived.map Prod.fst).zip (outputs (tableStep receive) reasm arrived)).filterMap fun entry =>
    entry.2.map fun found => ((entry.1, found.1), found.2)

def completed (read : List (UInt8 × Bytes)) : List ((Direction × Nat) × Bytes) :=
  completedFrom (fun _ _ => none) (arrivals read)

/-- Whether a message is counted. -/
def isAtt (pdu : Bytes) : Bool := pdu ≠ [] && !smpTag.isPrefixOf pdu

/-- The handle and the value of a message that carries both. -/
def value? : Bytes → Option (Nat × Bytes)
  | [] => none
  | op :: rest => handleValue? op rest

/-- The line of a message, if it is printed. -/
def shown (all : Bool) (direction : Direction) : Bytes → List Line
  | [] => []
  | op :: rest =>
      if smpTag.isPrefixOf (op :: rest) then [smpLine direction (op :: rest)]
      else if op ∈ interestingOps ∨ all then [attLine direction op rest] else []

/-! ## The loop -/

theorem op_of_tagged {op : UInt8} {rest : Bytes}
    (tagged : smpTag.isPrefixOf (op :: rest) = true) : op = 0x00 := by
  simp only [smpTag, List.isPrefixOf_cons_cons, Bool.and_eq_true, beq_iff_eq] at tagged
  exact tagged.1.symm

/-- What a pass adds for the messages that it completes. -/
structure Analyzed (all : Bool) (pdus : List ((Direction × Nat) × Bytes))
    (analysis after : Analysis) : Prop where
  attCount : after.attCount = analysis.attCount + pdus.countP fun entry => isAtt entry.2
  handleLens : after.handleLens =
    (pdus.filterMap fun entry => value? entry.2).foldl noteLength analysis.handleLens
  printed : after.printed =
    analysis.printed ++ pdus.flatMap fun entry => shown all entry.1.1 entry.2

namespace Analyzed

variable {all : Bool}

theorem trans {front back : List ((Direction × Nat) × Bytes)} {first middle last : Analysis}
    (before : Analyzed all front first middle) (later : Analyzed all back middle last) :
    Analyzed all (front ++ back) first last := by
  constructor
  · rw [later.attCount, before.attCount, List.countP_append, Nat.add_assoc]
  · rw [later.handleLens, before.handleLens, List.filterMap_append, List.foldl_append]
  · rw [later.printed, before.printed, List.flatMap_append, List.append_assoc]

theorem value?_smp {op : UInt8} {rest : Bytes} (tagged : smpTag.isPrefixOf (op :: rest) = true) :
    handleValue? op rest = none := by
  have isTag := op_of_tagged tagged
  subst isTag
  simp [handleValue?, handleValueOps]

theorem smp (analysis : Analysis) (direction : Direction) (handle : Nat) {op : UInt8}
    {rest : Bytes} (tagged : smpTag.isPrefixOf (op :: rest) = true) :
    Analyzed all [((direction, handle), op :: rest)] analysis
      (analyzePdu all analysis direction (op :: rest)) := by
  have step : analyzePdu all analysis direction (op :: rest) =
      { analysis with printed := analysis.printed ++ [smpLine direction (op :: rest)] } :=
    if_pos tagged
  have line : shown all direction (op :: rest) = [smpLine direction (op :: rest)] :=
    if_pos tagged
  rw [step]
  constructor
  · simp only [isAtt, List.countP_cons, List.countP_nil, tagged, Bool.not_true, Bool.and_false]
    rfl
  · simp only [value?, List.filterMap_cons, value?_smp tagged]
    rfl
  · rw [List.flatMap_singleton, line]

theorem att (analysis : Analysis) (direction : Direction) (handle : Nat) {op : UInt8}
    {rest : Bytes} (untagged : ¬smpTag.isPrefixOf (op :: rest) = true) :
    Analyzed all [((direction, handle), op :: rest)] analysis
      (analyzePdu all analysis direction (op :: rest)) := by
  have line : shown all direction (op :: rest) =
      if op ∈ interestingOps ∨ all then [attLine direction op rest] else [] := if_neg untagged
  rw [analyzePdu, if_neg untagged]
  constructor
  · simp only [isAtt, List.countP_cons, List.countP_nil, Bool.not_eq_true _ ▸ untagged]
    rfl
  · cases found : handleValue? op rest with
    | none => simp [value?, found]
    | some entry => simp [value?, found]
  · rw [List.flatMap_singleton, line]

theorem pdu (analysis : Analysis) (direction : Direction) (handle : Nat) (pdu : Bytes) :
    Analyzed all [((direction, handle), pdu)] analysis
      (analyzePdu all analysis direction pdu) := by
  cases pdu with
  | nil => constructor <;> simp [analyzePdu, isAtt, value?, shown]
  | cons op rest =>
      by_cases tagged : smpTag.isPrefixOf (op :: rest) = true
      · exact smp analysis direction handle tagged
      · exact att analysis direction handle tagged

end Analyzed

theorem completedFrom_cons (reasm : Direction → ReassemblyTable) (direction : Direction)
    (payload : Bytes) (arrived : List (Direction × Bytes)) :
    completedFrom reasm ((direction, payload) :: arrived) =
      ((receive (reasm direction) payload).1.map fun found =>
          ((direction, found.1), found.2)).toList ++
        completedFrom (Function.update reasm direction (receive (reasm direction) payload).2)
          arrived := by
  rw [completedFrom, List.map_cons, outputs, List.zip_cons_cons, List.filterMap_cons]
  unfold tableStep
  cases (receive (reasm direction) payload).1 with
  | none => rfl
  | some found => rfl

/-- The type of a record is counted, whatever becomes of it. -/
def countType (types : Dictionary Nat Nat) (record : UInt8 × Bytes) : Dictionary Nat Nat :=
  adjust (fun record => record.1.toNat) count types record

theorem analyzePdu_kept (all : Bool) (analysis : Analysis) (direction : Direction) (pdu : Bytes) :
    (analyzePdu all analysis direction pdu).reasm = analysis.reasm ∧
      (analyzePdu all analysis direction pdu).types = analysis.types := by
  cases pdu with
  | nil => exact ⟨rfl, rfl⟩
  | cons op rest =>
      rw [analyzePdu]
      split
      · exact ⟨rfl, rfl⟩
      · exact ⟨rfl, rfl⟩

/-- One pass: nothing is printed for a record of another type, and for a payload what it
completes. -/
theorem analyzeRecord_followed (all : Bool) (analysis : Analysis) {record : UInt8 × Bytes}
    {direction : Direction} (followed : Direction.ofPtype? record.1 = some direction) :
    let returned := receive (analysis.reasm direction) record.2
    let after := analyzeRecord all analysis record
    after.reasm = Function.update analysis.reasm direction returned.2 ∧
      after.types = countType analysis.types record ∧
      Analyzed all (returned.1.map fun found => ((direction, found.1), found.2)).toList analysis
        after := by
  intro returned after
  let moved : Analysis := { analysis with
    types := countType analysis.types record
    reasm := Function.update analysis.reasm direction returned.2 }
  have step : after = analyzePdu all moved direction
      ((attFromAcl record.2 (analysis.reasm direction)).1.getD []) := by
    simp only [after, analyzeRecord, followed]
    rfl
  have kept := analyzePdu_kept all moved direction
    ((attFromAcl record.2 (analysis.reasm direction)).1.getD [])
  have nothing : Analyzed all [] analysis moved := by
    constructor <;> simp [moved]
  rw [← step] at kept
  refine ⟨kept.1, kept.2, ?_⟩
  rw [step]
  simp only [returned, receive]
  cases (attFromAcl record.2 (analysis.reasm direction)).1 with
  | none => exact nothing
  | some pdu =>
      cases pdu with
      | nil => exact nothing
      | cons op rest =>
          have analyzed : Analyzed all [((direction, connection record.2), op :: rest)] moved _ :=
            .pdu moved direction (connection record.2) (op :: rest)
          exact ⟨analyzed.attCount, analyzed.handleLens, analyzed.printed⟩

/-- All passes. -/
theorem foldl_analyzeRecord (all : Bool) (read : List (UInt8 × Bytes)) (analysis : Analysis) :
    (read.foldl (analyzeRecord all) analysis).types = read.foldl countType analysis.types ∧
      Analyzed all (completedFrom analysis.reasm (arrivals read)) analysis
        (read.foldl (analyzeRecord all) analysis) := by
  induction read generalizing analysis with
  | nil => exact ⟨rfl, by constructor <;> simp [completedFrom, arrivals, outputs]⟩
  | cons record read induction =>
      rw [List.foldl_cons, List.foldl_cons]
      rcases induction (analyzeRecord all analysis record) with ⟨types, later⟩
      cases followed : Direction.ofPtype? record.1 with
      | none =>
          have step : analyzeRecord all analysis record =
              { analysis with types := countType analysis.types record } := by
            simp only [analyzeRecord, followed]
            rfl
          have ignored : arrivals (record :: read) = arrivals read := by
            rw [arrivals, List.filterMap_cons, followed]
            rfl
          rw [step] at types later ⊢
          rw [ignored]
          exact ⟨types, later.attCount, later.handleLens, later.printed⟩
      | some direction =>
          rcases analyzeRecord_followed all analysis followed with ⟨reasm, counted, here⟩
          have arrived : arrivals (record :: read) = (direction, record.2) :: arrivals read := by
            rw [arrivals, List.filterMap_cons, followed]
            rfl
          rw [counted] at types
          rw [reasm] at later
          rw [arrived, completedFrom_cons]
          exact ⟨types, here.trans later⟩

/-- What is printed of some messages, and of records of these types. -/
def expected (all : Bool) (ptypes : List Nat) (pdus : List ((Direction × Nat) × Bytes)) :
    List Line :=
  let values := pdus.filterMap fun entry => value? entry.2
  (pdus.flatMap fun entry => shown all entry.1.1 entry.2) ++
    summaryLines
      ((ascending ptypes).map fun ptype => (ptype, ptypes.countP (· = ptype)))
      (pdus.countP fun entry => isAtt entry.2)
      ((ascending (values.map Prod.fst)).map fun handle =>
        (handle, ascending ((values.filter (·.1 = handle)).map fun found => found.2.length)))

theorem main_eq (all : Bool) (buf : Bytes) :
    main all buf =
      expected all ((records buf).map fun record => record.1.toNat) (completed (records buf)) := by
  let pdus := completed (records buf)
  rcases foldl_analyzeRecord all (records buf) .start with ⟨types, analyzed⟩
  have lines : (analyze all buf).printed =
      pdus.flatMap fun entry => shown all entry.1.1 entry.2 := analyzed.printed
  have total : (analyze all buf).attCount = pdus.countP fun entry => isAtt entry.2 :=
    analyzed.attCount.trans (Nat.zero_add _)
  have ptypes := (congrArg sortedItems types).trans
    (sortedItems_counted (fun record : UInt8 × Bytes => record.1.toNat) (records buf))
  have handles := sortedItems_gathered Prod.fst (fun found : Nat × Bytes => found.2.length)
    (pdus.filterMap fun entry => value? entry.2)
  have handleLens : (analyze all buf).handleLens = _ := analyzed.handleLens
  rw [main, lines, total, handleLens, expected]
  simp only [List.countP_map]
  exact congrArg₂ _ rfl (congrArg₂ (summaryLines · _ ·) ptypes handles)

/-! ## Each message once, in order -/

theorem ofPtype?_eq_some_iff {ptype : UInt8} {direction : Direction} :
    Direction.ofPtype? ptype = some direction ↔ ptype = direction.ptype := by
  unfold Direction.ofPtype?
  by_cases isSent : ptype = 0x02
  · subst isSent
    cases direction <;> decide
  · by_cases isReceived : ptype = 0x03
    · subst isReceived
      cases direction <;> decide
    · cases direction <;> simp [isSent, isReceived, Direction.ptype]

theorem inputsOf_arrivals (direction : Direction) (read : List (UInt8 × Bytes)) :
    inputsOf direction (arrivals read) =
      (read.filter (·.1 = direction.ptype)).map Prod.snd := by
  induction read with
  | nil => rfl
  | cons record read induction =>
      rw [arrivals, List.filterMap_cons]
      cases followed : Direction.ofPtype? record.1 with
      | none =>
          have other : ¬record.1 = direction.ptype := by
            intro same
            rw [ofPtype?_eq_some_iff.mpr same] at followed
            cases followed
          rw [List.filter_cons_of_neg (by simpa using other)]
          exact induction
      | some own =>
          rw [Option.map_some]
          by_cases same : own = direction
          · subst same
            have isOwn := ofPtype?_eq_some_iff.mp followed
            rw [List.filter_cons_of_pos (by simpa using isOwn), List.map_cons, ← induction]
            exact inputsOf_cons_self _ _ _
          · have other : ¬record.1 = direction.ptype := by
              intro isOther
              rw [ofPtype?_eq_some_iff.mpr isOther, Option.some.injEq] at followed
              exact same followed.symm
            rw [List.filter_cons_of_neg (by simpa using other), ← induction]
            exact inputsOf_cons_other same _ _

theorem filter_completed (direction : Direction) (read : List (UInt8 × Bytes)) :
    ((completed read).filter (·.1.1 = direction)).map (fun entry => (entry.1.2, entry.2)) =
      (outputs receive (fun _ => none)
        ((read.filter (·.1 = direction.ptype)).map Prod.snd)).filterMap id := by
  have ofTable : ∀ values : List (Direction × Option (Nat × Bytes)),
      ((values.filterMap fun entry =>
          entry.2.map fun found => ((entry.1, found.1), found.2)).filter
            (·.1.1 = direction)).map (fun entry => (entry.1.2, entry.2)) =
        (inputsOf direction values).filterMap id := by
    intro values
    induction values with
    | nil => rfl
    | cons value values induction =>
        rcases value with ⟨own, found⟩
        by_cases same : own = direction
        · subst same
          rw [inputsOf_cons_self]
          cases found with
          | none => simpa using induction
          | some found => simpa using induction
        · rw [inputsOf_cons_other same, ← induction]
          cases found with
          | none => rfl
          | some found => simp [same]
  rw [completed, completedFrom, ofTable, outputs_tableStep, inputsOf_arrivals]

theorem outputs_receive (table : ReassemblyTable) (payloads : List Bytes) :
    ((outputs receive table payloads).filterMap id).map Prod.snd =
      ((outputs (fun reasm payload => attFromAcl payload reasm) table payloads).filterMap id).filter
        (· ≠ []) := by
  induction payloads generalizing table with
  | nil => rfl
  | cons payload payloads induction =>
      rw [outputs, outputs]
      have later := induction (attFromAcl payload table).2
      cases returned : (attFromAcl payload table).1 with
      | none => simpa [receive, returned] using later
      | some pdu =>
          by_cases empty : pdu = []
          · simpa [receive, returned, empty] using later
          · simpa [receive, returned, empty] using later

theorem connection_bytes (fragment : AclFragment) :
    connection fragment.bytes = fragment.handle := by
  rw [connection, fragment.flags_bytes, fragment.flags_and]

theorem filterMap_id_cons {Value : Type} (value : Option Value) (values : List (Option Value)) :
    (value :: values).filterMap id = value.toList ++ values.filterMap id := by
  cases value with
  | none => rfl
  | some value => rfl

theorem filter_toList (value : Option Bytes) :
    value.toList.filter (· ≠ []) = (value.filter (· ≠ [])).toList := by
  cases value with
  | none => rfl
  | some pdu =>
      by_cases empty : pdu = []
      · subst empty
        rfl
      · simp [empty, Option.filter]

theorem inputsOf_outputs_receive (table : ReassemblyTable) (fragments : List AclFragment)
    (handle : Nat) :
    inputsOf handle ((outputs receive table (fragments.map AclFragment.bytes)).filterMap id) =
      ((inputsOf handle ((fragments.map AclFragment.handle).zip
        (outputs (fun reasm payload => attFromAcl payload reasm) table
          (fragments.map AclFragment.bytes)))).filterMap id).filter (· ≠ []) := by
  induction fragments generalizing table with
  | nil => rfl
  | cons fragment fragments induction =>
      have later := induction (attFromAcl fragment.bytes table).2
      have here : receive table fragment.bytes =
          (((attFromAcl fragment.bytes table).1.filter (· ≠ [])).map (fragment.handle, ·),
            (attFromAcl fragment.bytes table).2) := by
        rw [receive, connection_bytes]
      rw [List.map_cons, List.map_cons, outputs, outputs, List.zip_cons_cons, here,
        filterMap_id_cons]
      by_cases own : fragment.handle = handle
      · rw [← own] at later ⊢
        rw [inputsOf_cons_self, filterMap_id_cons, List.filter_append, filter_toList, ← later]
        cases (attFromAcl fragment.bytes table).1.filter (· ≠ []) with
        | none => rfl
        | some pdu => exact inputsOf_cons_self _ _ _
      · rw [inputsOf_cons_other own, ← later]
        cases (attFromAcl fragment.bytes table).1.filter (· ≠ []) with
        | none => rfl
        | some pdu => exact inputsOf_cons_other own _ _

/-- The messages of each connection, without the empty ones, where the payloads are the
fragments of traffic. -/
theorem inputsOf_completed {direction : Direction} {read : List (UInt8 × Bytes)}
    {traffic : Traffic}
    (carried : (read.filter (·.1 = direction.ptype)).map Prod.snd =
      traffic.fragments.map AclFragment.bytes) (handle : Nat) :
    inputsOf (direction, handle) (completed read) =
      ((traffic.messages handle).map AttMessage.pdu).filter (· ≠ []) := by
  rw [inputsOf_pair, filter_completed, carried, inputsOf_outputs_receive,
    outputs_map_congr attFromAcl_bytes]
  have values := traffic.valuesOn_outputs handle
  rw [Traffic.valuesOn] at values
  rw [values, filterMap_returned]

/-- A capture, which may be cut off, whose records of each direction carry traffic. -/
def CarriesTraffic (buf : Bytes) (traffic : Direction → Traffic) : Prop :=
  ∃ (capture : List PacketRecord) (cut : Bytes), CutOff cut ∧
    buf = capture.flatMap PacketRecord.bytes ++ cut ∧
    ∀ direction, (capture.filter (·.ptype = Direction.ptype direction)).map PacketRecord.payload =
      (traffic direction).fragments.map AclFragment.bytes

theorem inputsOf_completed_traffic {buf : Bytes} {traffic : Direction → Traffic}
    (carries : CarriesTraffic buf traffic) (direction : Direction) (handle : Nat) :
    inputsOf (direction, handle) (completed (records buf)) =
      (((traffic direction).messages handle).map AttMessage.pdu).filter (· ≠ []) := by
  rcases carries with ⟨capture, cut, cutOff, rfl, carried⟩
  apply inputsOf_completed
  rw [records_flatMap capture cutOff, List.filter_map, List.map_map]
  exact carried direction

/-- The transcript is exact. Of every file, cut off or not, `main` prints the lines of the
messages that are complete, in the order in which they are, each once (without `--all` only those
of interesting and security-manager messages), and a summary that counts the records of each type
and the messages, and lists the lengths of the values for each handle.
The messages of a direction are those that its own table returns, without the empty ones; and
where the records carry traffic, however it is cut into fragments and interleaved between
connections and directions, they are on each connection the messages sent, in order. -/
theorem main_transcribes (all : Bool) (buf : Bytes) :
    let pdus := completed (records buf)
    main all buf = expected all ((records buf).map fun record => record.1.toNat) pdus ∧
      (∀ direction, (pdus.filter (·.1.1 = direction)).map Prod.snd =
        ((attPdus direction.ptype (records buf)).filterMap id).filter (· ≠ [])) ∧
      ∀ traffic, CarriesTraffic buf traffic → ∀ direction handle,
        inputsOf (direction, handle) pdus =
          (((traffic direction).messages handle).map AttMessage.pdu).filter (· ≠ []) := by
  intro pdus
  refine ⟨main_eq all buf, ?_, fun _ => inputsOf_completed_traffic⟩
  intro direction
  have own := congrArg (List.map Prod.snd) (filter_completed direction (records buf))
  rw [List.map_map, outputs_receive] at own
  exact own

/-! ### A conversation -/

/-- The answer to a read request, in one fragment. -/
def readResponse : AttMessage 1 where
  pdu := [0x0B, 0x2A]
  start := { readRequest.start with
    data := [0x02, 0x00, 0x04, 0x00, 0x0B, 0x2A]
    data_lt := by decide }
  continuations := []
  pdu_lt := by decide
  onConnection := by decide
  starts := by decide
  header := by decide
  continues := by decide
  framed := by decide

def conversation : Direction → Traffic
  | .sent => twoConnections
  | .received => {
      fragments := [readResponse.start]
      messages
        | 1 => [readResponse]
        | _ => []
      inOrder
        | 0 => rfl
        | 1 => rfl
        | _ + 2 => rfl }

/-- The answer stands between the fragments of a command on another connection. -/
def conversationCapture : List PacketRecord :=
  twoConnectionsCapture.set 2 (sentRecord 3 readResponse.start.bytes (by decide))

theorem main_transcribes_conversation :
    let buf := conversationCapture.flatMap PacketRecord.bytes ++ [0x0A, 0x00]
    main true buf =
        ["← READ_RSP           len=1   2a".toList,
          "→ WRITE_CMD          handle=0x0005 len=1   09  (int=9)".toList,
          "→ READ_REQ           handle=0x0003".toList, [], "=== summary ===".toList,
          "record types: \x7b'0x02': 4, '0x03': 1\x7d".toList, "total ATT PDUs: 3".toList,
          "handles written/notified (handle: value-lengths seen):".toList,
          "  0x0005: [1]".toList] ∧
      inputsOf (.received, 1) (completed (records buf)) = [[0x0B, 0x2A]] := by
  have cutOff : CutOff [0x0A, 0x00] := by
    refine ⟨sentRecord 2 [0x01] (by decide), (sentRecord 2 [0x01] (by decide)).bytes.drop 2, ?_⟩
    decide
  have carries : CarriesTraffic (conversationCapture.flatMap PacketRecord.bytes ++ [0x0A, 0x00])
      conversation := by
    refine ⟨conversationCapture, [0x0A, 0x00], cutOff, rfl, ?_⟩
    intro direction
    cases direction <;> decide
  have transcribed := main_transcribes true
    (conversationCapture.flatMap PacketRecord.bytes ++ [0x0A, 0x00])
  constructor
  · rw [transcribed.1, records_flatMap conversationCapture cutOff]
    decide +kernel
  · exact transcribed.2.2 conversation carries .received 1

end Capture

end SmartblindsBle
