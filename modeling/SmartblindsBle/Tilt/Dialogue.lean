import SmartblindsBle.Foundation.Parts
import SmartblindsBle.Tilt.ShadeSide
import SmartblindsBle.Tilt.CallerView

/-! # A session and its shade

The central's session and a conforming shade, joined by two links that deliver
everything in order. The shade is that of `FakeShadeClient`: it acknowledges every
chunk, answers the handshake and the status requests, and sends its next chunk
only after the acknowledgement of the previous one.
-/

namespace SmartblindsBle

open Foundation

/-! ## The shade -/

/-- What a shade is set up with; `statuses` are the statuses that it has when it
answers its first, its second, ... status request. -/
structure ShadeSetup where
  key : PairingKey
  nonce : Bytes
  versions : List UInt8
  statuses : Nat → ShadeStatus

structure Shade where
  assembler : BleMessageAssembler
  txSequence : Nat
  /-- The messages that have been reassembled and not been answered. -/
  requests : List Bytes
  /-- The chunks of the current reply that have not been acknowledged. -/
  unsent : List Bytes
  /-- The first of these chunks has been emitted. -/
  awaitsAck : Bool
  /-- How many status requests have been answered. -/
  statusReads : Nat

/-- The state that `start_notify` sets up. -/
def Shade.initial : Shade where
  assembler := .initial
  txSequence := 1
  requests := []
  unsent := []
  awaitsAck := false
  statusReads := 0

namespace ShadeSetup

variable (primitives : CryptoPrimitives) (setup : ShadeSetup)

/-- `_handle_crypto`. -/
def handleCrypto (frame : Bytes) : Raises Bytes :=
  match parseCryptoResponse frame with
  | .error error => .error error
  | .ok request =>
      match request.command, request.payload with
      | .requestProtocolVersions, _ => .ok (versionsResponse setup.versions)
      | .selectProtocolVersion, version :: _ => .ok (selectionResponse version)
      | .selectProtocolVersion, [] => .error (.other "IndexError")
      | .requestNonce, _ => .ok (nonceResponse primitives setup.nonce setup.key)
      | .ack, _ => .error (.other "AssertionError")

/-- `_handle_app`, for the requests of a session that only reads the status. -/
def handleApp (frame : Bytes) (statusReads : Nat) : Raises Bytes :=
  match decryptAppRequest primitives frame setup.key.bytes setup.nonce with
  | .error error => .error error
  | .ok request =>
      match request.command with
      | .getStatus => .ok (encodeAppResponse primitives request.command.value
          (statusPayload (setup.statuses statusReads)) setup.key.bytes setup.nonce request.counter
          request.messageId)
      | _ => .error (.other "AssertionError")

/-- `_handle_request`: the reply, and the status requests answered after it. -/
def handleRequest (frame : Bytes) (statusReads : Nat) : Raises (Bytes × Nat) :=
  if ofBigEndian (frame.take 2) &&& cryptoLayerFlag ≠ 0 then
    (setup.handleCrypto primitives frame).map fun reply => (reply, statusReads)
  else (setup.handleApp primitives frame statusReads).map fun reply => (reply, statusReads + 1)

end ShadeSetup

namespace Shade

/-- `write_gatt_char`: the new state, and what is notified. An acknowledgement of the
emitted chunk makes room for the next one; a data chunk is acknowledged. -/
def receive (data : Bytes) (shade : Shade) : Shade × List Bytes :=
  match parseBleChunk data with
  | .error _ => (shade, [])
  | .ok chunk =>
      if chunk.forBluetoothLayer then
        match parseBleAck data, shade.unsent, shade.awaitsAck with
        | .ok sequence, first :: rest, true =>
            if sequence = chunkSequence first then
              ({ shade with
                  unsent := rest
                  awaitsAck := false
                  txSequence := sequenceAfter sequence }, [])
            else (shade, [])
        | _, _, _ => (shade, [])
      else
        match makeBleAck chunk.sequence, shade.assembler.add data with
        | .ok ack, (assembler, .ok (_, some message)) =>
            ({ shade with
                assembler := assembler
                requests := shade.requests ++ [message] }, [ack])
        | .ok ack, (assembler, _) => ({ shade with assembler := assembler }, [ack])
        | .error _, _ => (shade, [])

/-- The task of `_handle_request` begins to send its reply. -/
def respond (primitives : CryptoPrimitives) (setup : ShadeSetup) (shade : Shade) :
    Option Shade :=
  match shade.requests, shade.unsent with
  | request :: requests, [] =>
      match setup.handleRequest primitives request shade.statusReads with
      | .error _ => some { shade with requests := requests }
      | .ok (reply, statusReads) =>
          match chunkForBle reply shade.txSequence with
          | .error _ => some { shade with requests := requests }
          | .ok chunks => some { shade with
              requests := requests
              unsent := chunks
              statusReads := statusReads }
  | _, _ => none

/-- The next chunk of the reply is notified. -/
def emit (shade : Shade) : Option (Shade × Bytes) :=
  match shade.unsent, shade.awaitsAck with
  | chunk :: _, false => some ({ shade with awaitsAck := true }, chunk)
  | _, _ => none

end Shade

/-! ## The dialogue -/

/-- The central, the shade, and what is under way between them. -/
structure Dialogue where
  world : World
  /-- What has been handed to `write_gatt_char` and has not reached the shade. -/
  uplink : List Bytes
  /-- What has been notified and has not reached the callback. -/
  downlink : List Bytes
  shade : Shade

namespace Dialogue

/-- A session that has been started, and a shade that is notifying. -/
def initial : Dialogue := ⟨.started, [], [], .initial⟩

/-- The central's part of a dialogue. -/
def central : Part Dialogue World where
  get := Dialogue.world
  set world dialogue := { dialogue with world := world }

/-- The steps of the central's worker, of the links and of the shade. -/
inductive Step
  | work
  | workWritten
  | notify
  | write
  | respond
  | emit

/-- The acknowledgements that the worker has handed to `write_gatt_char`. -/
def acknowledgements (before after : World) : List Bytes :=
  (after.history.drop before.history.length).filterMap fun action => match action with
    | .acknowledged ack => some ack
    | _ => none

variable (primitives : CryptoPrimitives) (setup : ShadeSetup)

def background : Step → Dialogue → Option Dialogue
  | .work, dialogue =>
      (World.background .work dialogue.world).map fun world => { dialogue with
        world := world
        uplink := dialogue.uplink ++ acknowledgements dialogue.world world }
  | .workWritten, dialogue =>
      (World.background (.workWritten (.ok ())) dialogue.world).map fun world =>
        { dialogue with world := world }
  | .notify, dialogue =>
      match dialogue.downlink with
      | [] => none
      | data :: downlink =>
          (World.background (.notify data) dialogue.world).map fun world =>
            { dialogue with world := world, downlink := downlink }
  | .write, dialogue =>
      match dialogue.uplink with
      | [] => none
      | data :: uplink =>
          let received := dialogue.shade.receive data
          some { dialogue with
            uplink := uplink
            downlink := dialogue.downlink ++ received.2
            shade := received.1 }
  | .respond, dialogue =>
      (dialogue.shade.respond primitives setup).map fun shade => { dialogue with shade := shade }
  | .emit, dialogue =>
      dialogue.shade.emit.map fun emitted => { dialogue with
        shade := emitted.1
        downlink := dialogue.downlink ++ [emitted.2] }

/-- What the caller's task hands to `write_gatt_char` is on its way at once. -/
def enter (operation : Operation) (dialogue : Dialogue) : Dialogue :=
  { dialogue with
    world := World.enter operation dialogue.world
    uplink := match operation with
      | .writeGattChar data => dialogue.uplink ++ [data]
      | _ => dialogue.uplink }

/-- No timer fires, and no call of the BLE client fails. -/
def answer (operation : Operation) (_ : Unit) (dialogue : Dialogue) :
    Option (Raises operation.Reply × Dialogue) :=
  (World.answer operation .completed dialogue.world).map fun answered =>
    (answered.1, { dialogue with world := answered.2 })

/-- The surroundings of the caller's task in a dialogue. -/
def environment : Environment Dialogue Operation Operation.Reply PythonException Step Unit where
  enter := enter
  background := background primitives setup
  answer := answer

end Dialogue

end SmartblindsBle
