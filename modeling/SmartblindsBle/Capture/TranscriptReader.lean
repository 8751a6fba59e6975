import SmartblindsBle.Capture.TranscriptLines

/-! # Reading a transcript

Every line of a transcript is read back as the message that it was printed for. Only
what follows the handle of a read request, or the size of an MTU exchange, is not printed.
-/

namespace SmartblindsBle

open Foundation

namespace Capture

/-! ## The reader -/

def readArrow (arrow : Char) : Option Direction :=
  if arrow = '→' then some .sent else if arrow = '←' then some .received else none

/-- An operation, from its padded name. -/
def readName (name : Line) : Option UInt8 :=
  if ("0x".toList).isPrefixOf name then
    (hexPairs ((name.drop 2).take 2)).bind List.head?
  else (attOps.find? fun entry => padRight 18 entry.2.toList = name).map Prod.fst

/-- The two bytes of a handle, from its digits. -/
def readHandle (text : Line) : Option Bytes := (hexPairs (text.take 4)).map List.reverse

/-- A value, from its length and its digits. -/
def readValue (text : Line) : Option Bytes :=
  let width := max 3 (text.takeWhile (· ≠ ' ')).length
  hexPairs ((text.drop (width + 1)).takeWhile (· ≠ ' '))

/-- What follows the operation, from what follows its name. -/
def readDetail (op : UInt8) (detail : Line) : Option Bytes :=
  if op ∈ handleValueOps ∧ (" handle=0x".toList).isPrefixOf detail then do
    let handle ← readHandle (detail.drop 10)
    let val ← readValue (detail.drop 19)
    return handle ++ val
  else if op ∈ handleOnlyOps ∧ (" handle=0x".toList).isPrefixOf detail then
    readHandle (detail.drop 10)
  else if op ∈ valueOnlyOps then readValue (detail.drop 5)
  else if op ∈ mtuOps ∧ (" mtu=".toList).isPrefixOf detail then
    some (toLittleEndian 2 (Nat.ofDigitChars 10 (detail.drop 5) 0))
  else hexPairs (detail.drop 1)

/-- A direction and a message, from a line. -/
def readLine : Line → Option (Direction × Bytes)
  | [] => none
  | arrow :: text => do
      let direction ← readArrow arrow
      if (" SMP  ".toList).isPrefixOf text then
        let pdu ← hexPairs (text.drop 6)
        return (direction, smpTag ++ pdu)
      else
        let op ← readName ((text.drop 1).take 18)
        let rest ← readDetail op (text.drop 19)
        return (direction, op :: rest)

/-! ## Names -/

theorem isPrefixOf_append (front text : Line) : front.isPrefixOf (front ++ text) = true :=
  List.isPrefixOf_iff_prefix.mpr (List.prefix_append front text)

theorem not_isPrefixOf_of_length {front text : Line} (short : text.length < front.length) :
    ¬front.isPrefixOf text = true := by
  intro isPrefix
  have bound := (List.isPrefixOf_iff_prefix.mp isPrefix).length_le
  omega

theorem hexPairs_hexChars (bytes : Bytes) : hexPairs (hexChars bytes) = some bytes :=
  hexPairs_of_hexChars (hexChars_toLower bytes).symm

theorem attName_cases (op : UInt8) :
    (∃ entry ∈ attOps, entry.1 = op ∧ attName op = entry.2.toList) ∨
      attName op = "0x".toList ++ hexChars [op] := by
  unfold attName
  cases found : attOps.lookup op with
  | none => exact .inr rfl
  | some name =>
      rcases List.lookup_eq_some_iff.mp found with ⟨front, back, split, _⟩
      have member : (op, name) ∈ attOps := by
        rw [split]
        exact List.mem_append_right front (List.mem_cons_self ..)
      exact .inl ⟨(op, name), member, rfl, rfl⟩

theorem length_attName (op : UInt8) : (padRight 18 (attName op)).length = 18 := by
  rcases attName_cases op with ⟨entry, member, _, isName⟩ | isDigits
  · have named : ∀ entry ∈ attOps, (padRight 18 entry.2.toList).length = 18 := by decide +kernel
    rw [isName]
    exact named entry member
  · rw [isDigits]
    rfl

theorem readName_attName (op : UInt8) : readName (padRight 18 (attName op)) = some op := by
  rcases attName_cases op with ⟨entry, member, rfl, isName⟩ | isDigits
  · have named : ∀ entry ∈ attOps, readName (padRight 18 entry.2.toList) = some entry.1 := by
      decide +kernel
    rw [isName]
    exact named entry member
  · have digits : padRight 18 (attName op) =
        "0x".toList ++ (hexChars [op] ++ List.replicate 14 ' ') := by
      rw [isDigits, padRight, List.append_assoc]
      rfl
    rw [digits, readName, if_pos (isPrefixOf_append _ _), List.drop_left' (by rfl),
      List.take_left' (by rfl), hexPairs_hexChars]
    rfl

theorem attName_ne_smp (op : UInt8) :
    ¬("SMP  ".toList).isPrefixOf (padRight 18 (attName op)) = true := by
  rcases attName_cases op with ⟨entry, member, _, isName⟩ | isDigits
  · have named : ∀ entry ∈ attOps,
        ¬("SMP  ".toList).isPrefixOf (padRight 18 entry.2.toList) = true := by
      decide +kernel
    rw [isName]
    exact named entry member
  · rw [isDigits]
    exact Bool.false_ne_true

/-! ## Fields -/

theorem not_space_of_mem_decimal {value : Nat} {digit : Char} (member : digit ∈ decimal value) :
    digit ≠ ' ' := by
  rw [decimal, Nat.toString_eq_repr, Nat.toList_repr] at member
  have isDigit := Nat.isDigit_of_mem_toDigits (by decide) (by decide) member
  rintro rfl
  cases isDigit

theorem not_space_of_mem_hexChars {bytes : Bytes} {digit : Char} (member : digit ∈ hexChars bytes) :
    digit ≠ ' ' := by
  rcases List.mem_flatMap.mp member with ⟨byte, _, isDigit⟩
  have digits : ∀ value < 16, hexDigit value ≠ ' ' := by decide
  have bound := byte.toNat_lt
  simp only [List.mem_cons, List.not_mem_nil, or_false] at isDigit
  rcases isDigit with rfl | rfl
  · exact digits _ (by omega)
  · exact digits _ (by omega)

theorem takeWhile_digits {digits tail : Line} (noSpace : ∀ digit ∈ digits, digit ≠ ' ')
    (ends : tail = [] ∨ ∃ rest, tail = ' ' :: rest) :
    (digits ++ tail).takeWhile (· ≠ ' ') = digits := by
  rw [List.takeWhile_append_of_pos (by simpa using noSpace)]
  rcases ends with rfl | ⟨rest, rfl⟩
  · rw [List.takeWhile_nil, List.append_nil]
  · rw [List.takeWhile_cons_of_neg (by simp), List.append_nil]

theorem length_hexChars (bytes : Bytes) : (hexChars bytes).length = 2 * bytes.length :=
  (hexPairs_denotes (hexPairs_hexChars bytes)).1

theorem readHandle_hexChars (handle : Nat) (text : Line) :
    readHandle (hexChars (toBigEndian 2 handle) ++ text) = some (toLittleEndian 2 handle) := by
  have fourDigits : (hexChars (toBigEndian 2 handle)).length = 4 := by
    rw [length_hexChars, toBigEndian_length]
  rw [readHandle, List.take_left' fourDigits, hexPairs_hexChars, Option.map_some, toBigEndian,
    List.reverse_reverse]

theorem readValue_padRight (length : Nat) (val : Bytes) {tail : Line}
    (ends : tail = [] ∨ ∃ rest, tail = ' ' :: rest) :
    readValue (padRight 3 (decimal length) ++ ' ' :: (hexChars val ++ tail)) = some val := by
  have digits : ((padRight 3 (decimal length)) ++ ' ' :: (hexChars val ++ tail)).takeWhile
      (· ≠ ' ') = decimal length := by
    rw [padRight, List.append_assoc]
    apply takeWhile_digits fun _ => not_space_of_mem_decimal
    cases 3 - (decimal length).length with
    | zero => exact .inr ⟨_, rfl⟩
    | succ missing => exact .inr ⟨_, rfl⟩
  have width : (padRight 3 (decimal length) ++ [' ']).length =
      max 3 (decimal length).length + 1 := by
    simp only [padRight, List.length_append, List.length_replicate, List.length_singleton]
    omega
  have split : padRight 3 (decimal length) ++ ' ' :: (hexChars val ++ tail) =
      (padRight 3 (decimal length) ++ [' ']) ++ (hexChars val ++ tail) := by
    rw [List.append_assoc, List.singleton_append]
  rw [readValue, digits, split, List.drop_left' width,
    takeWhile_digits (fun _ => not_space_of_mem_hexChars) ends, hexPairs_hexChars]

/-! ## Lines -/

theorem unpackU16_bytes {rest : Bytes} (twoBytes : 2 ≤ rest.length) :
    toLittleEndian 2 (unpackU16 rest) = rest.take 2 := by
  have restored := toLittleEndian_ofLittleEndian (rest.take 2)
  rwa [List.length_take, Nat.min_eq_left twoBytes] at restored

theorem handleText_digits (handle : Nat) :
    " handle=".toList ++ handleText handle =
      " handle=0x".toList ++ hexChars (toBigEndian 2 handle) := by
  have joined : " handle=".toList ++ "0x".toList = " handle=0x".toList := by decide
  rw [handleText, ← List.append_assoc, joined]

/-- What is printed behind an operation with a handle and a value. -/
theorem readDetail_handleValue {op : UInt8} {rest : Bytes} (carries : op ∈ handleValueOps)
    (twoBytes : 2 ≤ rest.length) : readDetail op (attDetail op rest) = some rest := by
  let val := rest.drop 2
  let tail : Line :=
    if val.length ≤ 4 then "  (int=".toList ++ decimal (ofLittleEndian val) ++ [')'] else []
  have ends : tail = [] ∨ ∃ text, tail = ' ' :: text := by
    by_cases short : val.length ≤ 4
    · exact .inr ⟨_, if_pos short⟩
    · exact .inl (if_neg short)
  let length := padRight 3 (decimal val.length) ++ ' ' :: (hexChars val ++ tail)
  let digits := hexChars (toBigEndian 2 (unpackU16 rest))
  have behind : attDetail op rest =
      " handle=0x".toList ++ digits ++ " len=".toList ++ length := by
    rw [attDetail, if_pos ⟨carries, twoBytes⟩, handleText_digits]
    simp only [List.append_assoc, List.cons_append]
    rfl
  have detail : attDetail op rest =
      " handle=0x".toList ++ (digits ++ (" len=".toList ++ length)) := by
    rw [behind]
    simp only [List.append_assoc]
  have fourDigits : digits.length = 4 := by
    rw [length_hexChars, toBigEndian_length]
  have front : (" handle=0x".toList ++ digits ++ " len=".toList).length = 19 := by
    rw [List.length_append, List.length_append, fourDigits]
    rfl
  have handle : readHandle ((attDetail op rest).drop 10) = some (rest.take 2) := by
    rw [detail, List.drop_left' (by rfl), readHandle_hexChars, unpackU16_bytes twoBytes]
  have value : readValue ((attDetail op rest).drop 19) = some val := by
    rw [behind, List.drop_left' front]
    exact readValue_padRight _ _ ends
  have isDetail : (" handle=0x".toList).isPrefixOf (attDetail op rest) = true := by
    rw [detail]
    exact isPrefixOf_append _ _
  rw [readDetail, if_pos ⟨carries, isDetail⟩, handle, value]
  exact congrArg some (List.take_append_drop 2 rest)

theorem readDetail_handleOnly {op : UInt8} {rest : Bytes} (carries : op ∈ handleOnlyOps)
    (twoBytes : 2 ≤ rest.length) : readDetail op (attDetail op rest) = some (rest.take 2) := by
  have noValue : op ∉ handleValueOps := by
    rcases List.mem_pair.mp carries with rfl | rfl
    · decide
    · decide
  let digits := hexChars (toBigEndian 2 (unpackU16 rest))
  have detail : attDetail op rest = " handle=0x".toList ++ (digits ++ []) := by
    rw [attDetail, if_neg fun both => noValue both.1, if_pos ⟨carries, twoBytes⟩,
      handleText_digits, List.append_nil]
  have isDetail : (" handle=0x".toList).isPrefixOf (attDetail op rest) = true := by
    rw [detail]
    exact isPrefixOf_append _ _
  rw [readDetail, if_neg fun both => noValue both.1, if_pos ⟨carries, isDetail⟩, detail,
    List.drop_left' (by rfl), readHandle_hexChars, unpackU16_bytes twoBytes]

theorem readDetail_valueOnly {op : UInt8} (rest : Bytes) (carries : op ∈ valueOnlyOps) :
    readDetail op (attDetail op rest) = some rest := by
  have noHandle : op ∉ handleValueOps ∧ op ∉ handleOnlyOps := by
    rcases List.mem_pair.mp carries with rfl | rfl
    · decide
    · decide
  have detail : attDetail op rest = " len=".toList ++
      (padRight 3 (decimal rest.length) ++ ' ' :: (hexChars rest ++ [])) := by
    rw [attDetail, if_neg fun both => noHandle.1 both.1, if_neg fun both => noHandle.2 both.1,
      if_pos carries, List.append_nil, List.append_assoc]
  rw [readDetail, if_neg fun both => noHandle.1 both.1, if_neg fun both => noHandle.2 both.1,
    if_pos carries, detail, List.drop_left' (by rfl)]
  exact readValue_padRight _ _ (.inl rfl)

theorem readDetail_mtu {op : UInt8} {rest : Bytes} (carries : op ∈ mtuOps)
    (twoBytes : 2 ≤ rest.length) : readDetail op (attDetail op rest) = some (rest.take 2) := by
  have other : op ∉ handleValueOps ∧ op ∉ handleOnlyOps ∧ op ∉ valueOnlyOps := by
    rcases List.mem_pair.mp carries with rfl | rfl
    · decide
    · decide
  have detail : attDetail op rest = " mtu=".toList ++ decimal (unpackU16 rest) := by
    rw [attDetail, if_neg fun both => other.1 both.1, if_neg fun both => other.2.1 both.1,
      if_neg other.2.2, if_pos ⟨carries, twoBytes⟩]
  have isDetail : (" mtu=".toList).isPrefixOf (attDetail op rest) = true := by
    rw [detail]
    exact isPrefixOf_append _ _
  rw [readDetail, if_neg fun both => other.1 both.1, if_neg fun both => other.2.1 both.1,
    if_neg other.2.2, if_pos ⟨carries, isDetail⟩, detail, List.drop_left' (by rfl), decimal,
    Nat.toString_eq_repr, Nat.toList_repr, Nat.ofDigitChars_toDigits (by decide) (by decide),
    unpackU16_bytes twoBytes]

/-- A message that is too short for its operation is printed in digits, as one of another
operation is. -/
theorem readDetail_digits {op : UInt8} {rest : Bytes} (noValue : op ∉ valueOnlyOps)
    (short : op ∈ handleValueOps ∨ op ∈ handleOnlyOps ∨ op ∈ mtuOps → rest.length < 2) :
    readDetail op (attDetail op rest) = some rest := by
  have detail : attDetail op rest = ' ' :: hexChars rest := by
    rw [attDetail, if_neg, if_neg, if_neg noValue, if_neg]
    · exact fun both => absurd (short (.inr (.inr both.1))) (by omega)
    · exact fun both => absurd (short (.inr (.inl both.1))) (by omega)
    · exact fun both => absurd (short (.inl both.1)) (by omega)
  have noPrefix : ∀ front : Line, 5 ≤ front.length → rest.length < 2 →
      ¬front.isPrefixOf (' ' :: hexChars rest) = true := by
    intro front long few
    apply not_isPrefixOf_of_length
    rw [List.length_cons, length_hexChars]
    omega
  rw [detail, readDetail, if_neg, if_neg, if_neg noValue, if_neg]
  · exact hexPairs_hexChars rest
  · exact fun both => noPrefix _ (by decide) (short (.inr (.inr both.1))) both.2
  · exact fun both => noPrefix _ (by decide) (short (.inr (.inl both.1))) both.2
  · exact fun both => noPrefix _ (by decide) (short (.inl both.1)) both.2

/-- What is printed of a message: of a read request the handle, and of an MTU exchange the
size. -/
def printedPart : Bytes → Bytes
  | [] => []
  | op :: rest => if op ∈ handleOnlyOps ∨ op ∈ mtuOps then op :: rest.take 2 else op :: rest

theorem readDetail_attDetail (op : UInt8) (rest : Bytes) :
    (readDetail op (attDetail op rest)).map (op :: ·) = some (printedPart (op :: rest)) := by
  have disjoint : (handleValueOps ++ valueOnlyOps).all
      (fun op => op ∉ handleOnlyOps ∧ op ∉ mtuOps) = true := by decide
  have other : op ∈ handleValueOps ++ valueOnlyOps → op ∉ handleOnlyOps ∧ op ∉ mtuOps :=
    fun member => of_decide_eq_true (List.all_eq_true.mp disjoint op member)
  have whole : op ∉ handleOnlyOps ∧ op ∉ mtuOps → printedPart (op :: rest) = op :: rest :=
    fun other => if_neg (not_or.mpr other)
  have cut : op ∈ handleOnlyOps ∨ op ∈ mtuOps → printedPart (op :: rest) = op :: rest.take 2 :=
    fun member => if_pos member
  by_cases isValue : op ∈ valueOnlyOps
  · rw [readDetail_valueOnly rest isValue, Option.map_some,
      whole (other (List.mem_append_right _ isValue))]
  · by_cases short : rest.length < 2
    · have everything : printedPart (op :: rest) = op :: rest := by
        rw [printedPart, List.take_of_length_le (by omega), ite_self]
      rw [readDetail_digits isValue fun _ => short, Option.map_some, everything]
    · have twoBytes : 2 ≤ rest.length := Nat.le_of_not_lt short
      by_cases carriesValue : op ∈ handleValueOps
      · rw [readDetail_handleValue carriesValue twoBytes, Option.map_some,
          whole (other (List.mem_append_left _ carriesValue))]
      · by_cases carriesHandle : op ∈ handleOnlyOps
        · rw [readDetail_handleOnly carriesHandle twoBytes, Option.map_some,
            cut (.inl carriesHandle)]
        · by_cases carriesSize : op ∈ mtuOps
          · rw [readDetail_mtu carriesSize twoBytes, Option.map_some, cut (.inr carriesSize)]
          · rw [readDetail_digits isValue, Option.map_some, whole ⟨carriesHandle, carriesSize⟩]
            rintro (member | member | member)
            · exact absurd member carriesValue
            · exact absurd member carriesHandle
            · exact absurd member carriesSize

theorem readArrow_arrow (direction : Direction) : readArrow direction.arrow = some direction := by
  cases direction <;> decide

theorem readLine_attLine (direction : Direction) (op : UInt8) (rest : Bytes) :
    readLine (attLine direction op rest) = some (direction, printedPart (op :: rest)) := by
  let text := ' ' :: (padRight 18 (attName op) ++ attDetail op rest)
  have length := length_attName op
  have noSmp : ¬(" SMP  ".toList).isPrefixOf text = true := by
    intro isPrefix
    have inside : "SMP  ".toList <+: padRight 18 (attName op) ++ attDetail op rest :=
      (List.cons_prefix_cons.mp (List.isPrefixOf_iff_prefix.mp isPrefix)).2
    have named := List.prefix_of_prefix_length_le inside (List.prefix_append _ _)
      (by rw [length]; decide)
    exact attName_ne_smp op (List.isPrefixOf_iff_prefix.mpr named)
  have name : (text.drop 1).take 18 = padRight 18 (attName op) := List.take_left' length
  have detail : text.drop 19 = attDetail op rest := List.drop_left' length
  have read := readDetail_attDetail op rest
  rw [attLine, readLine, readArrow_arrow]
  simp only [Option.bind_eq_bind, Option.bind_some]
  rcases Option.map_eq_some_iff.mp read with ⟨found, isDetail, isPart⟩
  rw [if_neg noSmp, name, detail, readName_attName, Option.bind_some, isDetail, ← isPart]
  rfl

theorem readLine_smpLine (direction : Direction) {pdu : Bytes}
    (tagged : smpTag.isPrefixOf pdu = true) :
    readLine (smpLine direction pdu) = some (direction, pdu) := by
  rcases List.isPrefixOf_iff_prefix.mp tagged with ⟨message, rfl⟩
  have behind : (smpTag ++ message).drop 5 = message := List.drop_left' rfl
  rw [smpLine, behind, List.cons_append, readLine, readArrow_arrow]
  simp only [Option.bind_eq_bind, Option.bind_some]
  rw [if_pos (isPrefixOf_append _ _), List.drop_left' (by rfl), hexPairs_hexChars]
  rfl

/-- Whether a message is printed. -/
def isPrinted (all : Bool) : Bytes → Bool
  | [] => false
  | op :: rest => smpTag.isPrefixOf (op :: rest) || (decide (op ∈ interestingOps) || all)

theorem readLine_shown (all : Bool) (direction : Direction) (pdu : Bytes) :
    (shown all direction pdu).filterMap readLine =
      if isPrinted all pdu then [(direction, printedPart pdu)] else [] := by
  cases pdu with
  | nil => rfl
  | cons op rest =>
      by_cases tagged : smpTag.isPrefixOf (op :: rest) = true
      · have whole : printedPart (op :: rest) = op :: rest := by
          rw [op_of_tagged tagged]
          rfl
        rw [shown, if_pos tagged, isPrinted, tagged, Bool.true_or, if_pos rfl, whole,
          List.filterMap_cons, readLine_smpLine direction tagged]
        rfl
      · have untagged := Bool.eq_false_of_not_eq_true tagged
        rw [shown, if_neg tagged, isPrinted, untagged, Bool.false_or]
        by_cases printed : op ∈ interestingOps ∨ all = true
        · rw [if_pos printed, if_pos (by simpa using printed), List.filterMap_cons,
            readLine_attLine]
          rfl
        · rw [if_neg printed, if_neg (by simpa using printed)]
          rfl

theorem readLine_foreign {first : Char} {text : Line} (foreign : readArrow first = none) :
    readLine (first :: text) = none := by
  rw [readLine, foreign]
  rfl

/-- The lines of the summary are no messages. -/
theorem readLine_summaryLines (types : List (Nat × Nat)) (attCount : Nat)
    (handleLens : List (Nat × List Nat)) :
    (summaryLines types attCount handleLens).filterMap readLine = [] := by
  rw [summaryLines, List.filterMap_append]
  have handles : (handleLens.map handleLine).filterMap readLine = [] := by
    rw [List.filterMap_eq_nil_iff]
    intro line member
    rcases List.mem_map.mp member with ⟨entry, _, rfl⟩
    exact readLine_foreign rfl
  rw [handles, List.append_nil]
  have types : readLine ("record types: \x7b".toList ++
      commaSeparated (types.map typeItem) ++ "\x7d".toList) = none := readLine_foreign rfl
  have total : readLine ("total ATT PDUs: ".toList ++ decimal attCount) = none :=
    readLine_foreign rfl
  have title : readLine "=== summary ===".toList = none := by decide +kernel
  have handleTitle : readLine
      "handles written/notified (handle: value-lengths seen):".toList = none := by decide +kernel
  have empty : readLine [] = none := rfl
  simp only [List.filterMap_cons, List.filterMap_nil, empty, title, types, total, handleTitle]

/-- A transcript can be read back. Of every file, the lines that `main` prints, with the
summary, are read as the messages that are printed, each with its direction and in their
order: with `--all` all that are complete, and otherwise those of the interesting operations
and of the security manager. Of a read request or an MTU exchange the bytes behind the first
two are lost. -/
theorem main_read_back (all : Bool) (buf : Bytes) :
    (main all buf).filterMap readLine =
      ((completed (records buf)).filter fun entry => isPrinted all entry.2).map fun entry =>
        (entry.1.1, printedPart entry.2) := by
  rw [main_eq, expected, List.filterMap_append, readLine_summaryLines, List.append_nil]
  induction completed (records buf) with
  | nil => rfl
  | cons entry entries induction =>
      rw [List.flatMap_cons, List.filterMap_append, readLine_shown, induction]
      by_cases printed : isPrinted all entry.2 = true
      · simp only [if_pos printed, List.filter_cons, List.map_cons]
        rfl
      · simp only [if_neg printed, List.filter_cons]
        rfl

end Capture

end SmartblindsBle
