import SmartblindsBle.Tilt.ClientBehaviour
import SmartblindsBle.Tilt.Transcript

/-! # The handshake

When the handshake completes, in terms of the three replies, and what it
guards: every application frame comes after a verified key proof and is
encrypted under the nonce of the verified reply.
-/

namespace SmartblindsBle

open Foundation

/-! ## The replies that the handshake accepts -/

/-- A version reply whose count fits its payload and whose list has a supported
version; 2 is preferred. -/
def OffersProtocol (frame : Bytes) (selected : UInt8) : Prop :=
  ∃ (count : UInt8) (versions rest : Bytes), versions.length = count.toNat ∧
    frame = cryptoFrame .requestProtocolVersions (count :: (versions ++ rest)) ∧
    ((2 ∈ versions ∧ selected = 2) ∨ (2 ∉ versions ∧ 1 ∈ versions ∧ selected = 1))

/-- The selected version, or an acknowledgement of the selection request. -/
def ConfirmsSelection (frame : Bytes) (selected : UInt8) : Prop :=
  frame = cryptoFrame .selectProtocolVersion [selected] ∨ frame = cryptoFrame .ack [0x03]

/-- A nonce and the proof that the shade holds the pairing key. -/
def ProvesKey (primitives : CryptoPrimitives) (key : PairingKey) (frame nonce : Bytes) : Prop :=
  nonce.length = 12 ∧ frame = cryptoFrame .requestNonce
    (nonce ++ primitives.hmacSha256 key.bytes pairingKeyProofMessage)

theorem parseProtocolVersions_eq_ok_iff {response : CryptoResponse} {versions : Bytes} :
    parseProtocolVersions response = .ok versions ↔
      ∃ (count : UInt8) (rest : Bytes), versions.length = count.toNat ∧
        response = ⟨.requestProtocolVersions, count :: (versions ++ rest)⟩ := by
  rcases response with ⟨command, payload⟩
  unfold parseProtocolVersions
  constructor
  · intro parsed
    split at parsed
    · cases parsed
    · next isVersions =>
        dsimp only at parsed isVersions
        rw [not_not] at isVersions
        subst isVersions
        split at parsed
        · cases parsed
        · next count rest =>
            split at parsed
            · cases parsed
            · next fits =>
                cases parsed
                refine ⟨count, rest.drop count.toNat, not_not.mp fits, ?_⟩
                rw [List.take_append_drop]
  · rintro ⟨count, rest, fits, equal⟩
    cases equal
    simp [← fits]

theorem find_supported_eq_some_iff {versions : Bytes} {selected : UInt8} :
    supportedCryptoProtocols.find? (fun version => versions.contains version) = some selected ↔
      (2 ∈ versions ∧ selected = 2) ∨ (2 ∉ versions ∧ 1 ∈ versions ∧ selected = 1) := by
  by_cases hasTwo : 2 ∈ versions
  · simp [supportedCryptoProtocols, hasTwo, eq_comm]
  · by_cases hasOne : 1 ∈ versions
    · simp [supportedCryptoProtocols, hasTwo, hasOne, eq_comm]
    · simp [supportedCryptoProtocols, hasTwo, hasOne]

theorem selectedProtocol_eq_ok_iff {frame : Bytes} {selected : UInt8} :
    TiltBleSession.selectedProtocol frame = .ok selected ↔ OffersProtocol frame selected := by
  unfold TiltBleSession.selectedProtocol OffersProtocol
  constructor
  · intro chosen
    cases parsed : parseCryptoResponse frame with
    | error error => simp [parsed] at chosen
    | ok response =>
        cases listed : parseProtocolVersions response with
        | error error => simp [parsed, listed] at chosen
        | ok versions =>
            rcases parseProtocolVersions_eq_ok_iff.mp listed with ⟨count, rest, fits, rfl⟩
            refine ⟨count, versions, rest, fits, parseCryptoResponse_eq_ok_iff.mp parsed, ?_⟩
            rw [← find_supported_eq_some_iff]
            simp only [parsed, listed] at chosen
            split at chosen
            · cases chosen
            · next found =>
                cases chosen
                exact found
  · rintro ⟨count, versions, rest, fits, framed, preferred⟩
    have parsed : parseCryptoResponse frame =
        .ok ⟨.requestProtocolVersions, count :: (versions ++ rest)⟩ :=
      parseCryptoResponse_eq_ok_iff.mpr framed
    have listed : parseProtocolVersions ⟨.requestProtocolVersions, count :: (versions ++ rest)⟩ =
        .ok versions := parseProtocolVersions_eq_ok_iff.mpr ⟨count, rest, fits, rfl⟩
    simp only [parsed, listed, find_supported_eq_some_iff.mpr preferred]

theorem checkSelection_eq_ok_iff {frame : Bytes} {selected : UInt8} :
    TiltBleSession.checkSelection frame selected = .ok () ↔ ConfirmsSelection frame selected := by
  unfold TiltBleSession.checkSelection ConfirmsSelection
  constructor
  · intro accepted
    cases parsed : parseCryptoResponse frame with
    | error error => simp [parsed] at accepted
    | ok response =>
        have framed := parseCryptoResponse_eq_ok_iff.mp parsed
        rcases response with ⟨command, payload⟩
        simp only [parsed] at accepted
        cases command with
        | ack =>
            by_cases same : payload = [CryptoCommand.selectProtocolVersion.value]
            · exact .inr (by rw [framed, same]; rfl)
            · simp [same] at accepted
        | selectProtocolVersion =>
            by_cases same : payload = [selected]
            · exact .inl (by rw [framed, same])
            · simp [same] at accepted
        | requestProtocolVersions => cases accepted
        | requestNonce => cases accepted
  · rintro (framed | framed)
    · have parsed : parseCryptoResponse frame = .ok ⟨.selectProtocolVersion, [selected]⟩ :=
        parseCryptoResponse_eq_ok_iff.mpr framed
      simp [parsed]
    · have parsed : parseCryptoResponse frame = .ok ⟨.ack, [0x03]⟩ :=
        parseCryptoResponse_eq_ok_iff.mpr framed
      simp [parsed, CryptoCommand.value]

theorem verifiedNonce_eq_ok_iff {primitives : CryptoPrimitives} {key : PairingKey}
    {frame nonce : Bytes} :
    TiltBleSession.verifiedNonce primitives key frame = .ok nonce ↔
      ProvesKey primitives key frame nonce := by
  unfold TiltBleSession.verifiedNonce ProvesKey parseNonceResponse
  constructor
  · intro verified
    cases parsed : parseCryptoResponse frame with
    | error error => simp [parsed] at verified
    | ok response =>
        have framed := parseCryptoResponse_eq_ok_iff.mp parsed
        rcases response with ⟨command, payload⟩
        by_cases isNonce : command = .requestNonce
        · by_cases fits : payload.length = 44
          · simp only [parsed, isNonce, fits, ne_eq, not_true_eq_false, reduceIte] at verified
            cases decision : pairingKeyMatchesProof primitives key.bytes (payload.drop 12) with
            | error error => simp [decision] at verified
            | ok isSame =>
                cases isSame with
                | false => simp [decision] at verified
                | true =>
                    simp only [decision] at verified
                    cases verified
                    refine ⟨by rw [List.length_take]; omega, ?_⟩
                    rw [framed, isNonce, ← (key.matchesProof_iff primitives _).mp decision,
                      List.take_append_drop]
          · simp [parsed, isNonce, fits] at verified
        · simp [parsed, isNonce] at verified
  · rintro ⟨nonceLength, framed⟩
    have parsed : parseCryptoResponse frame = .ok ⟨.requestNonce,
        nonce ++ primitives.hmacSha256 key.bytes pairingKeyProofMessage⟩ :=
      parseCryptoResponse_eq_ok_iff.mpr framed
    have fits : (nonce ++ primitives.hmacSha256 key.bytes pairingKeyProofMessage).length = 44 := by
      rw [List.length_append, nonceLength, primitives.hmacSha256_length]
    have matching := (key.matchesProof_iff primitives _).mpr rfl
    simp only [parsed, fits, List.take_left' nonceLength, List.drop_left' nonceLength, matching,
      ne_eq, not_true_eq_false, reduceIte]

/-- The three replies that the handshake accepts, and the nonce they establish. -/
def HandshakeAccepts (primitives : CryptoPrimitives) (key : PairingKey)
    (versionsFrame selectionFrame nonceFrame nonce : Bytes) : Prop :=
  ∃ selected, OffersProtocol versionsFrame selected ∧
    ConfirmsSelection selectionFrame selected ∧ ProvesKey primitives key nonceFrame nonce

/-! ## When the handshake completes -/

section Completion

variable {network : Network} {primitives : CryptoPrimitives} {key : PairingKey}

theorem HandshakeStep.cases {Value : Type} {frame : Bytes} {check : Bytes → Raises Value}
    {start later : CallerView} {outcome : Raises Value}
    (step : HandshakeStep network frame check start outcome later) :
    later.nonce = start.nonce ∧ ∃ actions, later.history = start.history ++ actions ∧
      .sessionCreated ∉ actions ∧
      ((∃ reply, outcome = check reply ∧ receivedFrames actions = [reply]) ∨
        ((∃ error, outcome = .error error) ∧ receivedFrames actions = [])) := by
  have noReply : ∀ copies chunk,
      receivedFrames (List.replicate copies (Action.handed chunk)) = [] := by
    intro copies chunk
    simp [receivedFrames, Action.receivedFrame?]
  rcases step with ⟨reply, sent, rfl⟩
  cases sent with
  | refused isOrdinary =>
      exact ⟨rfl, [], (List.append_nil _).symm, List.not_mem_nil, .inr ⟨⟨_, rfl⟩, rfl⟩⟩
  | unconfirmed copies positive bound isOrdinary =>
      exact ⟨rfl, _, rfl, by simp, .inr ⟨⟨_, rfl⟩, noReply _ _⟩⟩
  | unanswered copies positive bound isOrdinary =>
      refine ⟨rfl, _, List.append_assoc _ _ _, by simp, .inr ⟨⟨_, rfl⟩, ?_⟩⟩
      rw [receivedFrames_append, noReply]
      rfl
  | answered copies positive bound reply admitted =>
      refine ⟨rfl, _, (List.append_assoc _ _ _).trans (List.append_assoc _ _ _), by simp,
        .inl ⟨reply, rfl, ?_⟩⟩
      rw [receivedFrames_append, noReply]
      rfl

theorem HandshakeStep.cases_ok {Value : Type} {frame : Bytes} {check : Bytes → Raises Value}
    {start later : CallerView} {value : Value}
    (step : HandshakeStep network frame check start (.ok value) later) :
    ∃ actions reply, later.history = start.history ++ actions ∧ .sessionCreated ∉ actions ∧
      receivedFrames actions = [reply] ∧ check reply = .ok value := by
  rcases step.cases.2 with ⟨actions, grown, sameSession, ⟨reply, verdict, received⟩ |
    ⟨⟨error, impossible⟩, _⟩⟩
  · exact ⟨actions, reply, grown, sameSession, received, verdict.symm⟩
  · cases impossible

theorem HandshakeStep.accepts {selected : UInt8} {nonce : Bytes}
    {start first second third : CallerView}
    (versions : VersionsStep network start (.ok selected) first)
    (selection : SelectionStep network selected first (.ok ()) second)
    (proof : NonceStep network primitives key second (.ok nonce) third) :
    ∃ actions versionsFrame selectionFrame nonceFrame,
      third.history = start.history ++ actions ∧ .sessionCreated ∉ actions ∧
      receivedFrames actions = [versionsFrame, selectionFrame, nonceFrame] ∧
      HandshakeAccepts primitives key versionsFrame selectionFrame nonceFrame nonce := by
  rcases HandshakeStep.cases_ok versions with
    ⟨firstActions, versionsFrame, firstGrown, firstSession, firstReply, chosen⟩
  rcases HandshakeStep.cases_ok selection with
    ⟨secondActions, selectionFrame, secondGrown, secondSession, secondReply, confirmed⟩
  rcases HandshakeStep.cases_ok proof with
    ⟨thirdActions, nonceFrame, thirdGrown, thirdSession, thirdReply, proven⟩
  refine ⟨firstActions ++ secondActions ++ thirdActions, versionsFrame, selectionFrame,
    nonceFrame, ?_, ?_, ?_, selected, selectedProtocol_eq_ok_iff.mp chosen,
    checkSelection_eq_ok_iff.mp confirmed, verifiedNonce_eq_ok_iff.mp proven⟩
  · rw [thirdGrown, secondGrown, firstGrown]
    simp only [List.append_assoc]
  · simp [firstSession, secondSession, thirdSession]
  · simp [firstReply, secondReply, thirdReply]

end Completion

/-! ## What the handshake guards -/

/-- In the current session the handshake has accepted three replies. -/
def VerifiedNonce (primitives : CryptoPrimitives) (key : PairingKey) (history : List Action)
    (nonce : Bytes) : Prop :=
  ∃ versionsFrame selectionFrame nonceFrame rest,
    receivedFrames (sinceSession history) =
      versionsFrame :: selectionFrame :: nonceFrame :: rest ∧
    HandshakeAccepts primitives key versionsFrame selectionFrame nonceFrame nonce

/-- A frame of the encrypted layer: the top bit of its header is clear. -/
def IsApplicationFrame (frame : Bytes) : Prop :=
  ofBigEndian (frame.take 2) &&& cryptoLayerFlag = 0

/-- A chunk carries a whole frame, and an application frame is encrypted under
the nonce of a verified reply in the same session. -/
def Protected (primitives : CryptoPrimitives) (key : PairingKey) (before : List Action)
    (chunk : Bytes) : Prop :=
  ∃ sequence frame, chunk = dataChunk sequence true frame ∧
    (IsApplicationFrame frame → ∃ nonce, VerifiedNonce primitives key before nonce ∧
      ∃ command payload counter messageId, encodeApplicationRequest primitives command payload
        key.bytes nonce counter messageId = .ok frame)

/-- The invariant: the traffic so far is protected, and so is the session's nonce. -/
structure Guarded (primitives : CryptoPrimitives) (key : PairingKey) (view : CallerView) :
    Prop where
  everyHanded : EveryHanded (Protected primitives key) view.history
  nonceVerified : ∀ nonce, view.nonce = some nonce →
    VerifiedNonce primitives key view.history nonce

section Guarding

variable {network : Network} {primitives : CryptoPrimitives} {key : PairingKey}

theorem VerifiedNonce.append {history : List Action} {nonce : Bytes}
    (verified : VerifiedNonce primitives key history nonce) {action : Action}
    (sameSession : action ≠ .sessionCreated) :
    VerifiedNonce primitives key (history ++ [action]) nonce := by
  rcases verified with ⟨versionsFrame, selectionFrame, nonceFrame, rest, received, accepted⟩
  refine ⟨versionsFrame, selectionFrame, nonceFrame, rest ++ receivedFrames [action], ?_,
    accepted⟩
  have notCreated : Action.sessionCreated ∉ [action] := by
    simpa using sameSession.symm
  rw [sinceSession_append history notCreated, receivedFrames_append, received]
  rfl

theorem Guarded.record {view : CallerView} (guarded : Guarded primitives key view)
    {action : Action} (notHanded : ∀ chunk, action ≠ .handed chunk)
    (sameSession : action ≠ .sessionCreated) : Guarded primitives key (view.record action) :=
  ⟨guarded.everyHanded.append_other notHanded,
    fun nonce isNonce => (guarded.nonceVerified nonce isNonce).append sameSession⟩

theorem Guarded.sending {frame : Bytes} {attempts : Nat} {start later : CallerView}
    (guarded : Guarded primitives key start) (sends : Sending frame attempts start later)
    (allowed : ∀ view, Guarded primitives key view → view.nonce = start.nonce →
      Protected primitives key view.history (start.chunkOf frame)) :
    Guarded primitives key later := by
  refine sends.preserves _ guarded ?_ ?_ ?_
  · intro copies _ holds
    refine ⟨holds.everyHanded.append ?_, fun nonce isNonce =>
      (holds.nonceVerified nonce isNonce).append nofun⟩
    rintro chunk isHanded
    cases isHanded
    exact allowed _ holds rfl
  · intro view holds
    have recorded : Guarded primitives key (view.record (.confirmed view.txSequence)) :=
      holds.record nofun nofun
    exact ⟨recorded.everyHanded, recorded.nonceVerified⟩
  · exact fun view reply holds => holds.record nofun nofun

theorem protected_cryptoFrame (view start : CallerView) (command : CryptoCommand)
    (payload : Bytes) :
    Protected primitives key view.history (start.chunkOf (cryptoFrame command payload)) := by
  refine ⟨start.txSequence, _, rfl, ?_⟩
  intro isApplication
  exact absurd isApplication (by decide : ¬ofBigEndian cryptoHeader &&& cryptoLayerFlag = 0)

theorem Guarded.exchanging {Result : Type} {call : SessionCall primitives key Result}
    {start later : CallerView} (guarded : Guarded primitives key start)
    (exchanging : Exchanging call start later) : Guarded primitives key later := by
  have requested : ∀ frame, Guarded primitives key (start.request frame) := by
    intro frame
    have recorded : Guarded primitives key
        (start.record (.requested start.counter start.messageId frame)) :=
      guarded.record nofun nofun
    exact ⟨recorded.everyHanded, recorded.nonceVerified⟩
  cases exchanging with
  | idle => exact guarded
  | unencoded isNonce encoded => exact requested _
  | @sending nonce frame later isNonce encoded sends =>
      apply (requested _).sending sends
      intro view holds sameNonce
      rcases call.encodes _ _ _ frame encoded with ⟨payload, _, encrypted⟩
      exact ⟨start.txSequence, frame, rfl, fun _ => ⟨nonce,
        holds.nonceVerified nonce (sameNonce.trans isNonce), _, payload, _, _, encrypted⟩⟩

theorem Guarded.calling {Result : Type} {call : SessionCall primitives key Result}
    {start later : CallerView} (guarded : Guarded primitives key start)
    (calling : Calling network call start later) : Guarded primitives key later := by
  rcases calling with exchanging | ⟨outcome, response, last, exchanged, _, rfl⟩
  · exact guarded.exchanging exchanging
  · have isOutcome := call.isCallOutcome outcome
    refine (guarded.exchanging exchanged.exchanging).record ?_ ?_
    · rintro chunk isHanded
      rw [isHanded] at isOutcome
      cases isOutcome
    · rintro isCreated
      rw [isCreated] at isOutcome
      cases isOutcome

/-- A session is fresh: no reply has been taken in it. -/
def Fresh (view : CallerView) : Prop :=
  view.nonce = none ∧ receivedFrames (sinceSession view.history) = []

theorem Guarded.authenticating {start later : CallerView}
    (guarded : Guarded primitives key start) (fresh : Fresh start)
    (authenticating : Authenticating network primitives key start later) :
    Guarded primitives key later := by
  have sending : ∀ {start later : CallerView} {command payload},
      Guarded primitives key start → Sending (cryptoFrame command payload) 2 start later →
      Guarded primitives key later := by
    intro start later command payload guarded sends
    exact guarded.sending sends fun view _ _ => protected_cryptoFrame view start command payload
  cases authenticating with
  | versions sends => exact sending guarded sends
  | selection versions sends => exact sending (sending guarded versions.sending) sends
  | nonce versions selection sends =>
      exact sending (sending (sending guarded versions.sending) selection.sending)
        sends
  | @verified selected nonce first second third versions selection proof =>
      have guardedThird := sending (sending (sending guarded versions.sending)
        selection.sending) proof.sending
      rcases HandshakeStep.accepts versions selection proof with
        ⟨actions, versionsFrame, selectionFrame, nonceFrame, grown, sameSession, received,
          accepted⟩
      refine ⟨guardedThird.everyHanded, ?_⟩
      rintro other isNonce
      cases isNonce
      refine ⟨versionsFrame, selectionFrame, nonceFrame, [], ?_, accepted⟩
      dsimp only
      rw [grown, sinceSession_append _ sameSession, receivedFrames_append, fresh.2, received]
      rfl

theorem Guarded.newSession {view : CallerView} (guarded : Guarded primitives key view) :
    Guarded primitives key view.newSession ∧ Fresh view.newSession := by
  refine ⟨⟨guarded.everyHanded.append_other nofun, nofun⟩, rfl, ?_⟩
  simp [CallerView.newSession, receivedFrames]

theorem Guarded.session {Result : Type} {operation : Async Result} {view : CallerView}
    (guarded : Guarded primitives key view)
    (operates : ∀ later, Guarded primitives key later →
      Keeps network operation (Guarded primitives key) later) :
    Keeps network (TiltBleSession.authenticate primitives key >>= fun _ => operation)
      (Guarded primitives key) view.newSession := by
  rcases guarded.newSession with ⟨start, fresh⟩
  refine Keeps.bind ?_ fun _ => operates
  exact (TiltBleSession.authenticate_behaves view.newSession).mono
    (fun later => start.authenticating fresh)
    (fun outcome later ended => start.authenticating fresh ended.authenticating)

theorem Guarded.positionOperating {percent : Int} {start later : CallerView}
    (guarded : Guarded primitives key start)
    (operating : PositionOperating network primitives key percent start later) :
    Guarded primitives key later := by
  cases operating with
  | reading calling => exact guarded.calling calling
  | setting read differs calling => exact (guarded.calling read.calling).calling calling
  | readingBack read differs set calling =>
      exact ((guarded.calling read.calling).calling set.calling).calling calling

theorem Guarded.perform {client : TiltShadeClient} {view : CallerView} (call : ClientCall)
    (guarded : Guarded primitives client.pairingKey view) :
    Keeps network (client.perform primitives call) (Guarded primitives client.pairingKey) view := by
  cases call with
  | readStatus =>
      refine Keeps.bind (readStatus_keeps guarded ?_ ?_ ?_) fun _ later => Keeps.done
      · exact fun view holds => ⟨holds.everyHanded, holds.nonceVerified⟩
      · exact fun view holds => holds.newSession.1
      · refine fun view holds => holds.session fun later start => ?_
        exact (TiltBleSession.readStatus_behaves later).mono (fun last => start.calling)
          fun outcome last ended => start.calling ended.calling
  | setPositionAndReadStatus positionPercent settleSeconds =>
      refine Keeps.bind ?_ fun _ later => Keeps.done
      apply Keeps.bind (Keeps.done guarded)
      intro percent later start
      have forgotten : Guarded primitives client.pairingKey later.noSession :=
        ⟨start.everyHanded, start.nonceVerified⟩
      refine runSession_keeps start forgotten forgotten.newSession.1
        (forgotten.session fun later start => ?_)
      exact (positionOperation_behaves settleSeconds later).mono
        (fun last => start.positionOperating)
        fun outcome last ended => start.positionOperating ended.operating

end Guarding

end SmartblindsBle
