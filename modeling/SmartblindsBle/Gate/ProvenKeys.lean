import SmartblindsBle.Gate.KeyGate
import SmartblindsBle.Tilt.Movement

/-! # What the gate check proves

The check never moves a shade, tries the keys in their order, and reports a key
only after a session of that very shade in which the key proof was verified and a
status was decrypted.
-/

namespace SmartblindsBle

open Foundation

/-- What a session hands and takes when its status read returns a status: the replies of the
handshake are accepted, and the fourth reply decrypts to the status under the first ids. -/
def AttestedRead (primitives : CryptoPrimitives) (key : PairingKey) (status : ShadeStatus)
    (actions : List Action) : Prop :=
  .sessionCreated ∉ actions ∧ ∃ versionsFrame selectionFrame nonceFrame reply nonce,
    receivedFrames actions = [versionsFrame, selectionFrame, nonceFrame, reply] ∧
    HandshakeAccepts primitives key versionsFrame selectionFrame nonceFrame nonce ∧
    (decodeApplicationResponse primitives reply key.bytes nonce .getStatus 1 (some 1)).bind
      parseStatus = .ok status

section Attested

variable {network : Network} {primitives : CryptoPrimitives} {key : PairingKey}
variable {start later : CallerView}

theorem HandshakeStep.sameIds {Value : Type} {frame : Bytes} {check : Bytes → Raises Value}
    {outcome : Raises Value} (step : HandshakeStep network frame check start outcome later) :
    later.counter = start.counter ∧ later.messageId = start.messageId := by
  rcases step with ⟨reply, sent, _⟩
  cases sent with
  | _ => exact ⟨rfl, rfl⟩

/-- The history ends with a session that attests the status, and `property` held before it. -/
def EndsAttested (primitives : CryptoPrimitives) (key : PairingKey) (property : List Action → Prop)
    (status : ShadeStatus) (history : List Action) : Prop :=
  ∃ before actions, history = before ++ .sessionCreated :: actions ∧ property before ∧
    AttestedRead primitives key status actions

variable {property : List Action → Prop}

/-- How a status read ends. -/
def ReadEnds (primitives : CryptoPrimitives) (key : PairingKey) (property : List Action → Prop)
    (outcome : Raises ShadeStatus) (later : CallerView) : Prop :=
  property later.history ∧
    ∀ status, outcome = .ok status → EndsAttested primitives key property status later.history

theorem ReadEnds.error (holds : property later.history) (error : PythonException) :
    ReadEnds primitives key property (.error error) later :=
  ⟨holds, nofun⟩

end Attested

/-! ## The probe of one shade -/

namespace KeyGate

def isCall : Action → Bool
  | .called _ => true
  | _ => false

/-- No chunk is as long as one that moves a shade. -/
def Harmless (history : List Action) : Prop :=
  ∀ chunk, .handed chunk ∈ history → chunk.length ≠ 11

/-- Since `start`, `count` keys have been tried, and nothing has moved. -/
def Probed (start : List Action) (count : Nat) (history : List Action) : Prop :=
  ∃ actions, history = start ++ actions ∧ Harmless actions ∧ actions.countP isCall = count

theorem Probed.append {start history : List Action} {count : Nat}
    (probed : Probed start count history) {action : Action}
    (harmless : ∀ chunk, action = .handed chunk → chunk.length ≠ 11) :
    Probed start (count + [action].countP isCall) (history ++ [action]) := by
  rcases probed with ⟨actions, rfl, harmlessBefore, counted⟩
  refine ⟨actions ++ [action], List.append_assoc .., ?_, ?_⟩
  · intro chunk member
    rcases List.mem_append.mp member with earlier | last
    · exact harmlessBefore chunk earlier
    · exact harmless chunk (List.mem_singleton.mp last).symm
  · rw [List.countP_append, counted]

theorem Probed.harmless {start history : List Action} {count : Nat}
    (probed : Probed start count history) (before : Harmless start) : Harmless history := by
  rcases probed with ⟨actions, rfl, harmless, _⟩
  intro chunk member
  rcases List.mem_append.mp member with earlier | later
  · exact before chunk earlier
  · exact harmless chunk later

section Probe

variable {network : Network} {primitives : CryptoPrimitives} {address : String}

/-- How a probe ends that has tried some keys before. -/
def ProbeEnds (primitives : CryptoPrimitives) (start : List Action) (tried : Nat)
    (keys : List (Text × Bytes)) (outcome : Raises (Option (Text × ShadeStatus)))
    (later : CallerView) : Prop :=
  match outcome with
  | .ok none => Probed start (tried + keys.length) later.history
  | .ok (some (name, status)) => ∃ before key after,
      keys = before ++ (name, PairingKey.bytes key) :: after ∧
      Probed start (tried + (before.length + 1)) later.history ∧
      EndsAttested primitives key (Probed start (tried + (before.length + 1))) status
        later.history
  | .error error => error.isAuthenticationError = false ∧
      ∃ count ≤ tried + keys.length, Probed start count later.history

theorem ProbeEnds.next {start : List Action} {tried : Nat} {keys : List (Text × Bytes)}
    {outcome : Raises (Option (Text × ShadeStatus))} {later : CallerView}
    (ends : ProbeEnds primitives start (tried + 1) keys outcome later) (entry : Text × Bytes) :
    ProbeEnds primitives start tried (entry :: keys) outcome later := by
  have shift : ∀ length : Nat, tried + 1 + length = tried + (length + 1) := by
    intro length
    omega
  cases outcome with
  | error error =>
      rcases ends with ⟨other, count, fits, probed⟩
      rw [shift] at fits
      exact ⟨other, count, fits, probed⟩
  | ok found =>
      cases found with
      | none =>
          change Probed start (tried + (keys.length + 1)) later.history
          rw [← shift]
          exact ends
      | some found =>
          rcases ends with ⟨before, key, after, same, probed, attested⟩
          rw [shift] at probed attested
          exact ⟨entry :: before, key, after, by rw [same]; rfl, probed, attested⟩

end Probe

/-! ## The whole check -/

section Run

variable {network : Network} {primitives : CryptoPrimitives} {keys : List (Text × Bytes)}

private def inRange : List Advertisement :=
  [⟨"other", none, none, some (-40)⟩, ⟨"shade", none, some "RollerShade", some (-60)⟩]

end Run

end KeyGate

end SmartblindsBle
