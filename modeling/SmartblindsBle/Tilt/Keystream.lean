import Mathlib.Data.Set.BooleanAlgebra
import Mathlib.Order.CompletePartialOrder
import SmartblindsBle.Tilt.CodecErrors
import SmartblindsBle.Tilt.ResponseFormat

/-! # The keystreams of a session

An initial block is the nonce, sixteen bits for the direction and the counter, and
sixteen bits that the block index counts up. No message is long enough for the
index to carry into the counter, so different messages use different blocks.
-/

namespace SmartblindsBle

open Foundation

/-- The counter blocks that encrypt a number of bytes. -/
def blocksUsed (initialBlock : Bytes) (length : Nat) : Set Bytes :=
  {block | ∃ position < length, block = counterBlock initialBlock (position / 16)}

theorem xorWith_congr {first second : Nat → UInt8} {data : Bytes}
    (agree : ∀ position < data.length, first position = second position) :
    xorWith first data = xorWith second data := by
  induction data generalizing first second with
  | nil => rfl
  | cons byte data induction =>
      have head := agree 0 (Nat.zero_lt_succ _)
      have tail := induction fun position inside => agree (position + 1) (Nat.succ_lt_succ inside)
      rw [xorWith, xorWith, head, tail]

/-- A ciphertext depends on the cipher through these blocks only. -/
theorem aesCtr_congr {first second : CryptoPrimitives} {data key initialBlock : Bytes}
    (agree : ∀ block ∈ blocksUsed initialBlock data.length,
      first.aesEncryptBlock (key.take 16) block = second.aesEncryptBlock (key.take 16) block) :
    aesCtr first data key initialBlock = aesCtr second data key initialBlock := by
  apply xorWith_congr
  intro position inside
  unfold keystreamByte
  rw [agree _ ⟨position, inside, rfl⟩]

/-! ## Messages -/

inductive Direction
  | request
  | response
  deriving DecidableEq, Repr

/-- What `decode_application_response` has checked when it decrypts a frame. -/
structure Decrypts (key nonce frame : Bytes) : Prop where
  keyAndNonce : requireKeyAndNonce key nonce = .ok ()
  long : 6 ≤ frame.length
  encrypted : ofBigEndian (frame.take 2) &&& cryptoLayerFlag = 0
  counter : 1 ≤ headerCounter frame ∧ headerCounter frame ≤ maxCounter

/-- A frame that was accepted has been decrypted, and its checksum verified. -/
theorem decodeApplicationResponse_decrypts {primitives : CryptoPrimitives}
    {frame key nonce : Bytes} {expectedCommand : ShadeCommand} {expectedMessageId : Int}
    {expectedCounter : Option Int} {response : ApplicationResponse}
    (accepted : decodeApplicationResponse primitives frame key nonce expectedCommand
      expectedMessageId expectedCounter = .ok response) :
    Decrypts key nonce frame ∧
      ∃ presentation, verifyChecksum (frame.take 2)
        (aesCtr primitives (frame.drop 2) key (responseBlock nonce (frame.take 2))) =
          .ok presentation ∧
        decodePresentation presentation expectedCommand expectedMessageId (headerCounter frame) =
          .ok response := by
  unfold decodeApplicationResponse at accepted
  split at accepted
  · cases accepted
  · next keyAndNonce =>
      split at accepted
      · cases accepted
      · split at accepted
        · cases accepted
        · next long =>
            simp only at accepted
            split at accepted
            · cases accepted
            · next encrypted =>
                split at accepted
                · cases accepted
                · next checked =>
                    have inRange : 1 ≤ headerCounter frame ∧ headerCounter frame ≤ maxCounter := by
                      unfold counterHeader at checked
                      split at checked
                      · next inRange => exact inRange
                      · cases checked
                    split at accepted
                    · cases accepted
                    · split at accepted
                      · cases accepted
                      · next presentation verified =>
                          exact ⟨⟨keyAndNonce, Nat.not_lt.mp long, not_not.mp encrypted, inRange⟩,
                            presentation, verified, accepted⟩

/-- A frame that was encrypted, or is decrypted, under a session's nonce. -/
inductive ApplicationMessage (nonce : Bytes)
  | request (primitives : CryptoPrimitives) (command : Int) (payload key : Bytes)
      (counter messageId : Int) (frame : Bytes)
      (encoded : encodeApplicationRequest primitives command payload key nonce counter messageId =
        .ok frame)
  | response (key frame : Bytes) (decrypts : Decrypts key nonce frame)

namespace ApplicationMessage

variable {nonce : Bytes}

def frame : ApplicationMessage nonce → Bytes
  | .request _ _ _ _ _ _ frame _ => frame
  | .response _ frame _ => frame

def direction : ApplicationMessage nonce → Direction
  | .request .. => .request
  | .response .. => .response

def counter : ApplicationMessage nonce → Int
  | .request _ _ _ _ counter _ _ _ => counter
  | .response _ frame _ => headerCounter frame

def ciphertext (message : ApplicationMessage nonce) : Bytes := message.frame.drop 2

/-- The initial block that the codec builds from the nonce and the frame's header. -/
def initialBlock : ApplicationMessage nonce → Bytes
  | .request _ _ _ _ _ _ frame _ => requestBlock nonce (frame.take 2)
  | .response _ frame _ => responseBlock nonce (frame.take 2)

/-- The sixteen bits between the nonce and the block index. -/
def tag (message : ApplicationMessage nonce) : Nat :=
  message.counter.toNat + match message.direction with
    | .request => 0
    | .response => 2 ^ 15

theorem counter_inRange (message : ApplicationMessage nonce) :
    1 ≤ message.counter ∧ message.counter ≤ maxCounter := by
  cases message with
  | request primitives command payload key counter messageId frame encoded =>
      exact (encodeApplicationRequest_eq_ok encoded).2.2.1
  | response key frame decrypts => exact decrypts.counter

theorem tag_lt (message : ApplicationMessage nonce) : message.tag < 2 ^ 16 := by
  have inRange := message.counter_inRange
  have limit : maxCounter = 2 ^ 15 - 1 := rfl
  unfold tag
  cases message.direction with
  | request => simp only; omega
  | response => simp only; omega

theorem tag_injective {first second : ApplicationMessage nonce} (same : first.tag = second.tag) :
    (first.direction, first.counter) = (second.direction, second.counter) := by
  have firstInRange := first.counter_inRange
  have secondInRange := second.counter_inRange
  have limit : maxCounter = 2 ^ 15 - 1 := rfl
  unfold tag at same
  cases firstIs : first.direction <;> cases secondIs : second.direction <;>
    rw [firstIs, secondIs] at same <;> simp only at same
  · have counters : first.counter = second.counter := by omega
    rw [counters]
  · omega
  · omega
  · have counters : first.counter = second.counter := by omega
    rw [counters]

theorem ofBigEndian_pair (high low : UInt8) :
    ofBigEndian [high, low] = 256 * high.toNat + low.toNat := by
  simp [ofBigEndian, ofLittleEndian, Nat.add_comm]

theorem responseHeader_value {header : Bytes} (twoBytes : header.length = 2)
    (encrypted : ofBigEndian header &&& cryptoLayerFlag = 0) :
    ofBigEndian [header.getD 0 0 ||| 0x80, header.getD 1 0] = ofBigEndian header + 2 ^ 15 := by
  have small : ofBigEndian header < 2 ^ 15 := by
    have counter := (counter_of_header twoBytes encrypted).1
    have mask : maxCounter.toNat = 2 ^ 15 - 1 := rfl
    rw [mask, Nat.and_two_pow_sub_one_eq_mod] at counter
    omega
  match header, twoBytes with
  | [high, low], _ =>
      have marks : ∀ byte : BitVec 8, byte.toNat < 128 →
          (byte ||| 0x80#8).toNat = byte.toNat + 128 := by decide
      rw [ofBigEndian_pair] at small
      have highBound : high.toBitVec.toNat < 128 := by
        change high.toNat < 128
        omega
      have marked : (high ||| 0x80).toNat = high.toNat + 128 := marks high.toBitVec highBound
      change ofBigEndian [high ||| 0x80, low] = _
      rw [ofBigEndian_pair, ofBigEndian_pair, marked]
      ring

/-- An initial block is the nonce, the tag and sixteen zero bits. -/
theorem initialBlock_value (message : ApplicationMessage nonce) :
    nonce.length = 12 ∧
      ofBigEndian message.initialBlock = 2 ^ 32 * ofBigEndian nonce + 2 ^ 16 * message.tag := by
  have limit : maxCounter = 2 ^ 15 - 1 := rfl
  cases message with
  | request primitives command payload key counter messageId frame encoded =>
      rcases encodeApplicationRequest_eq_ok encoded with ⟨_, nonceLength, inRange, _, rfl⟩
      have header : ofBigEndian (toBigEndian 2 counter.toNat) = counter.toNat := by
        rw [ofBigEndian_toBigEndian]
        apply Nat.mod_eq_of_lt
        omega
      refine ⟨nonceLength, ?_⟩
      change ofBigEndian (nonce ++ toBigEndian 2 counter.toNat ++ [0, 0]) =
        2 ^ 32 * ofBigEndian nonce + 2 ^ 16 * (counter.toNat + 0)
      rw [ofBigEndian_append, ofBigEndian_append, header, toBigEndian_length, ofBigEndian_pair]
      change 256 ^ 2 * (256 ^ 2 * ofBigEndian nonce + counter.toNat) + 0 = _
      ring
  | response key frame decrypts =>
      have nonceLength : nonce.length = 12 := by
        have checked := decrypts.keyAndNonce
        unfold requireKeyAndNonce at checked
        split at checked
        · cases checked
        · split at checked
          · cases checked
          · next sameLength => exact not_not.mp sameLength
      have twoBytes : (frame.take 2).length = 2 := by
        have long := decrypts.long
        rw [List.length_take]
        omega
      have header := (counter_of_header twoBytes decrypts.encrypted).1
      have value := responseHeader_value twoBytes decrypts.encrypted
      refine ⟨nonceLength, ?_⟩
      change ofBigEndian (nonce ++ [(frame.take 2).getD 0 0 ||| 0x80, (frame.take 2).getD 1 0] ++
          [0, 0]) =
        2 ^ 32 * ofBigEndian nonce +
          2 ^ 16 * ((ofBigEndian (frame.take 2) &&& maxCounter.toNat) + 2 ^ 15)
      rw [ofBigEndian_append, ofBigEndian_append, value, header, ofBigEndian_pair]
      change 256 ^ 2 * (256 ^ 2 * ofBigEndian nonce + (ofBigEndian (frame.take 2) + 2 ^ 15)) + 0 = _
      ring

theorem block_value {message : ApplicationMessage nonce}
    (short : message.ciphertext.length ≤ 2 ^ 20) {block : Bytes}
    (used : block ∈ blocksUsed message.initialBlock message.ciphertext.length) :
    ∃ index < 2 ^ 16,
      block = toBigEndian 16 (2 ^ 32 * ofBigEndian nonce + 2 ^ 16 * message.tag + index) ∧
      2 ^ 32 * ofBigEndian nonce + 2 ^ 16 * message.tag + index < 2 ^ 128 := by
  rcases used with ⟨position, inside, rfl⟩
  rcases message.initialBlock_value with ⟨nonceLength, value⟩
  have nonceBound := ofBigEndian_lt nonce
  rw [nonceLength] at nonceBound
  have tagBound := message.tag_lt
  have indexBound : position / 16 < 2 ^ 16 := by omega
  have noCarry : 2 ^ 32 * ofBigEndian nonce + 2 ^ 16 * message.tag + position / 16 < 2 ^ 128 := by
    omega
  refine ⟨position / 16, indexBound, ?_, noCarry⟩
  rw [counterBlock, value, Nat.mod_eq_of_lt noCarry]

/-- The encoder encrypts the presentation and its checksum from this initial block on. -/
theorem request_ciphertext (primitives : CryptoPrimitives) (command : Int) (payload key : Bytes)
    (counter messageId : Int) (frame : Bytes)
    (encoded : encodeApplicationRequest primitives command payload key nonce counter messageId =
      .ok frame) :
    let message := request primitives command payload key counter messageId frame encoded
    message.ciphertext = aesCtr primitives
      (withChecksum (frame.take 2)
        ([UInt8.ofNat messageId.toNat, UInt8.ofNat command.toNat] ++ payload)) key
      message.initialBlock :=
  encodeApplicationRequest_ciphertext encoded

/-- The decoder decrypts what it reads from this initial block on. -/
theorem response_plaintext {primitives : CryptoPrimitives} {frame key : Bytes}
    {expectedCommand : ShadeCommand} {expectedMessageId : Int} {expectedCounter : Option Int}
    {decoded : ApplicationResponse}
    (accepted : decodeApplicationResponse primitives frame key nonce expectedCommand
      expectedMessageId expectedCounter = .ok decoded) :
    ∃ (decrypts : Decrypts key nonce frame) (presentation : Bytes),
      let message := response key frame decrypts
      verifyChecksum (frame.take 2)
        (aesCtr primitives message.ciphertext key message.initialBlock) = .ok presentation ∧
      decodePresentation presentation expectedCommand expectedMessageId message.counter =
        .ok decoded := by
  rcases decodeApplicationResponse_decrypts accepted with ⟨decrypts, presentation, read⟩
  exact ⟨decrypts, presentation, read⟩

/-- Under one nonce, messages that differ in direction or counter share no block. -/
theorem blocks_disjoint {first second : ApplicationMessage nonce}
    (apart : (first.direction, first.counter) ≠ (second.direction, second.counter))
    (firstShort : first.ciphertext.length ≤ 2 ^ 20)
    (secondShort : second.ciphertext.length ≤ 2 ^ 20) :
    Disjoint (blocksUsed first.initialBlock first.ciphertext.length)
      (blocksUsed second.initialBlock second.ciphertext.length) := by
  apply Set.disjoint_left.mpr
  intro block firstUses secondUses
  rcases block_value firstShort firstUses with ⟨firstIndex, firstBound, firstBlock, firstFits⟩
  rcases block_value secondShort secondUses with
    ⟨secondIndex, secondBound, secondBlock, secondFits⟩
  have sameValue := @toBigEndian_injective 16 _ _ firstFits secondFits
    (firstBlock.symm.trans secondBlock)
  have sameTag : first.tag = second.tag := by omega
  exact apart (tag_injective sameTag)

/-- The first request of a session, and the reply under the same counter. -/
def firstRequest : ApplicationMessage zeroNonce :=
  .request .constant 0x10 [] PairingKey.zero.bytes 1 1 [0, 1, 1, 16, 240, 146] (by decide)

def firstReply : ApplicationMessage zeroNonce :=
  .response PairingKey.zero.bytes [0, 1, 0, 0, 0, 0] ⟨by decide, by decide, by decide, by decide⟩

theorem blocks_disjoint_sameCounter :
    firstRequest.counter = firstReply.counter ∧
      Disjoint (blocksUsed firstRequest.initialBlock firstRequest.ciphertext.length)
        (blocksUsed firstReply.initialBlock firstReply.ciphertext.length) := by
  refine ⟨rfl, ?_⟩
  exact blocks_disjoint (by decide) (by decide) (by decide)

end ApplicationMessage

end SmartblindsBle
