import SmartblindsBle.Capture.Reassembly
import SmartblindsBle.Foundation.Dictionaries
import SmartblindsBle.Foundation.Hex

/-! # The transcript of a capture

One pass over the records of both directions prints a line for each ATT message that is
complete, and then what has been counted.
-/

namespace SmartblindsBle

open Foundation

namespace Capture

/-! ## Lines -/

inductive Direction
  | sent
  | received
  deriving DecidableEq, Repr

namespace Direction

def ptype : Direction → UInt8
  | .sent => 0x02
  | .received => 0x03

/-- The direction of the records of a type that is followed. -/
def ofPtype? (ptype : UInt8) : Option Direction :=
  if ptype = 0x02 then some .sent else if ptype = 0x03 then some .received else none

def arrow : Direction → Char
  | .sent => '→'
  | .received => '←'

end Direction

def attOps : List (UInt8 × String) :=
  [(0x01, "ERROR_RSP"), (0x02, "MTU_REQ"), (0x03, "MTU_RSP"), (0x04, "FIND_INFO_REQ"),
    (0x05, "FIND_INFO_RSP"), (0x06, "FIND_BY_TYPE_REQ"), (0x07, "FIND_BY_TYPE_RSP"),
    (0x08, "READ_BY_TYPE_REQ"), (0x09, "READ_BY_TYPE_RSP"), (0x0A, "READ_REQ"),
    (0x0B, "READ_RSP"), (0x0C, "READ_BLOB_REQ"), (0x0D, "READ_BLOB_RSP"),
    (0x10, "READ_BY_GROUP_REQ"), (0x11, "READ_BY_GROUP_RSP"), (0x12, "WRITE_REQ"),
    (0x13, "WRITE_RSP"), (0x16, "PREPARE_WRITE_REQ"), (0x17, "PREPARE_WRITE_RSP"),
    (0x18, "EXEC_WRITE_REQ"), (0x19, "EXEC_WRITE_RSP"), (0x1B, "NOTIFY"), (0x1D, "INDICATE"),
    (0x1E, "CONFIRM"), (0x52, "WRITE_CMD"), (0xD2, "SIGNED_WRITE_CMD")]

def handleValueOps : List UInt8 := [0x12, 0x52, 0x1B, 0x1D, 0xD2]
def handleOnlyOps : List UInt8 := [0x0A, 0x0C]
def valueOnlyOps : List UInt8 := [0x0B, 0x0D]
def mtuOps : List UInt8 := [0x02, 0x03]

/-- The operations that are printed by default. -/
def interestingOps : List UInt8 := [0x12, 0x52, 0x0A, 0x0B, 0x1B, 0x1D, 0xD2, 0x0C, 0x0D]

abbrev Line := List Char

/-- A number in base 10. -/
def decimal (value : Nat) : Line := (toString value).toList

/-- `f"{text:<{width}}"`. -/
def padRight (width : Nat) (text : Line) : Line :=
  text ++ List.replicate (width - text.length) ' '

/-- A number of 16 bits as `f"0x{handle:04x}"`. -/
def handleText (handle : Nat) : Line := "0x".toList ++ hexChars (toBigEndian 2 handle)

/-- `ATT_OPS.get(op, f"0x{op:02x}")`. -/
def attName (op : UInt8) : Line :=
  match attOps.lookup op with
  | some name => name.toList
  | none => "0x".toList ++ hexChars [op]

/-- `struct.unpack_from("<H", rest, 0)`, where two bytes are there. -/
def unpackU16 (rest : Bytes) : Nat := ofLittleEndian (rest.take 2)

/-- What is printed behind the name. -/
def attDetail (op : UInt8) (rest : Bytes) : Line :=
  if op ∈ handleValueOps ∧ 2 ≤ rest.length then
    let val := rest.drop 2
    " handle=".toList ++ handleText (unpackU16 rest) ++ " len=".toList ++
      padRight 3 (decimal val.length) ++ ' ' :: hexChars val ++
      if val.length ≤ 4 then "  (int=".toList ++ decimal (ofLittleEndian val) ++ [')'] else []
  else if op ∈ handleOnlyOps ∧ 2 ≤ rest.length then
    " handle=".toList ++ handleText (unpackU16 rest)
  else if op ∈ valueOnlyOps then
    " len=".toList ++ padRight 3 (decimal rest.length) ++ ' ' :: hexChars rest
  else if op ∈ mtuOps ∧ 2 ≤ rest.length then
    " mtu=".toList ++ decimal (unpackU16 rest)
  else ' ' :: hexChars rest

def attLine (direction : Direction) (op : UInt8) (rest : Bytes) : Line :=
  direction.arrow :: ' ' :: (padRight 18 (attName op) ++ attDetail op rest)

/-- The line of a message of the security manager, behind its tag. -/
def smpLine (direction : Direction) (pdu : Bytes) : Line :=
  direction.arrow :: " SMP  ".toList ++ hexChars (pdu.drop 5)

/-! ## The loop -/

structure Analysis where
  /-- `reasm_tx` and `reasm_rx`. -/
  reasm : Direction → ReassemblyTable
  types : Dictionary Nat Nat
  attCount : Nat
  /-- The lengths of the values that have been seen, by handle. -/
  handleLens : Dictionary Nat (List Nat)
  printed : List Line

def Analysis.start : Analysis where
  reasm _ _ := none
  types := ∅
  attCount := 0
  handleLens := ∅
  printed := []

/-- The handle and the value of a message that carries both. -/
def handleValue? (op : UInt8) (rest : Bytes) : Option (Nat × Bytes) :=
  if op ∈ handleValueOps ∧ 2 ≤ rest.length then some (unpackU16 rest, rest.drop 2) else none

def noteLength (handleLens : Dictionary Nat (List Nat)) (found : Nat × Bytes) :
    Dictionary Nat (List Nat) :=
  adjust Prod.fst (gather fun found => found.2.length) handleLens found

/-- The rest of a pass, with a message that is complete. -/
def analyzePdu (all : Bool) (analysis : Analysis) (direction : Direction) (pdu : Bytes) :
    Analysis :=
  match pdu with
  | [] => analysis
  | op :: rest =>
      if smpTag.isPrefixOf pdu then
        { analysis with printed := analysis.printed ++ [smpLine direction pdu] }
      else
        { analysis with
          attCount := analysis.attCount + 1
          handleLens := (handleValue? op rest).elim analysis.handleLens
            (noteLength analysis.handleLens)
          printed := analysis.printed ++
            if op ∈ interestingOps ∨ all then [attLine direction op rest] else [] }

/-- One pass of the loop. -/
def analyzeRecord (all : Bool) (analysis : Analysis) (record : UInt8 × Bytes) : Analysis :=
  let analysis := { analysis with
    types := adjust (fun record => record.1.toNat) count analysis.types record }
  match Direction.ofPtype? record.1 with
  | none => analysis
  | some direction =>
      let returned := attFromAcl record.2 (analysis.reasm direction)
      let analysis := { analysis with
        reasm := Function.update analysis.reasm direction returned.2 }
      analyzePdu all analysis direction (returned.1.getD [])

def analyze (all : Bool) (buf : Bytes) : Analysis :=
  (records buf).foldl (analyzeRecord all) .start

/-! ## The summary -/

/-- The items with `", "` between them. -/
def commaSeparated : List Line → Line
  | [] => []
  | [item] => item
  | item :: items => item ++ ", ".toList ++ commaSeparated items

def typeItem (entry : Nat × Nat) : Line :=
  "'0x".toList ++ hexChars (toBigEndian 1 entry.1) ++ "': ".toList ++ decimal entry.2

def handleLine (entry : Nat × List Nat) : Line :=
  "  ".toList ++ handleText entry.1 ++ ": [".toList ++
    commaSeparated (entry.2.map decimal) ++ [']']

/-- The summary of sorted dictionaries. -/
def summaryLines (types : List (Nat × Nat)) (attCount : Nat)
    (handleLens : List (Nat × List Nat)) : List Line :=
  [[], "=== summary ===".toList,
    "record types: \x7b".toList ++ commaSeparated (types.map typeItem) ++ "\x7d".toList,
    "total ATT PDUs: ".toList ++ decimal attCount,
    "handles written/notified (handle: value-lengths seen):".toList] ++
    handleLens.map handleLine

/-- What `main` prints of the file, with or without `--all`. -/
def main (all : Bool) (buf : Bytes) : List Line :=
  let analysis := analyze all buf
  analysis.printed ++
    summaryLines (sortedItems analysis.types) analysis.attCount
      ((sortedItems analysis.handleLens).map fun entry =>
        (entry.1, entry.2.insertionSort (· ≤ ·)))

end Capture

end SmartblindsBle
