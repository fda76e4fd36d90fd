/-
The state of a session, without any socket or clock.

A session is driven by events, each with the instant at which it happened, and answers with actions in order. It says
hello until the device accepts, then numbers the packets it sends and puts those it receives in sequence. A `Step` is
the session after something and the actions queued on the way; steps are chained by `Step.next`.
-/
import VisionMixer.IdMap
import VisionMixer.Packet.Basic
import VisionMixer.Record
import VisionMixer.Session.Config

namespace VisionMixer

/-- a moment, in nanoseconds; a clock is taken to reach as far as deadlines do -/
abbrev Instant := Nat

/-- what happens to a session -/
inductive SessionEvent where
  /-- start saying hello -/
  | connect
  /-- a datagram arrived -/
  | datagram (bytes : Bytes)
  /-- a deadline may have passed -/
  | tick
  /-- a payload is to be sent -/
  | send (payload : Bytes)
  /-- the owner has seen the end of the handshake -/
  | initComplete
  | close
  | socketFailed (message : String)

/-- what a session wants done -/
inductive SessionAction where
  | transmit (datagram : Bytes)
  /-- the records of one packet, in sequence -/
  | deliver (records : List Record)
  | acknowledged (id : PacketId)
  /-- a packet that will never be acknowledged -/
  | sendFailed (id : PacketId)
  | phaseChanged (phase : Phase)
  | disconnected (reason : EndReason)
  deriving DecidableEq

/-- a sent packet without an outcome -/
structure InFlight where
  id : PacketId
  packet : Packet
  sentAt : Instant
  retransmits : Nat
  deriving DecidableEq

/-- the state of a session -/
structure Session where
  config : SessionConfig
  phase : Phase
  /-- the id of the hello exchange -/
  helloId : UInt16
  /-- the id the device assigned -/
  sessionId : Option UInt16
  nextLocalId : PacketId
  nextRemoteId : PacketId
  inFlight : List InFlight
  /-- payloads that arrived before their turn -/
  reorder : IdMap PacketId Bytes
  startedAt : Option Instant
  nextHello : Option Instant
  lastReceived : Option Instant

/-- a session after something, and the actions queued on the way -/
abbrev Step := Session × List SessionAction

/-- a step and then another -/
def Step.next (s : Step) (f : Session → Step) : Step :=
  let t := f s.1
  (t.1, s.2 ++ t.2)

namespace Session

/-- a session that has not started -/
def initial (config : SessionConfig) (helloId : UInt16) : Session := {
  config
  phase := .connecting
  helloId
  sessionId := none
  nextLocalId := 1
  nextRemoteId := 1
  inFlight := []
  reorder := ∅
  startedAt := none
  nextHello := none
  lastReceived := none }

/-- nothing happens -/
def still (m : Session) : Step := (m, [])

/-- the action that sends a packet; one too long for the wire is not sent -/
def sending (p : Packet) : List SessionAction :=
  match p.encode with
  | .ok datagram => [.transmit datagram]
  | .error _ => []

/-- the actions that send packets -/
def sendingAll (packets : List Packet) : List SessionAction := packets.flatMap sending

/-- the session in another phase -/
def enter (m : Session) (phase : Phase) : Step :=
  if m.phase = phase then m.still else ({ m with phase }, [.phaseChanged phase])

/-- the end of a session: what is in flight has failed and all timers stop; a session ends once -/
def terminate (m : Session) (reason : EndReason) : Step :=
  if m.phase.isTerminal then m.still
  else
    ({ m with phase := .disconnected, inFlight := [], reorder := ∅, nextHello := none, lastReceived := none },
      .phaseChanged .disconnecting :: m.inFlight.map (.sendFailed ·.id)
        ++ [.disconnected reason, .phaseChanged .disconnected])

/-- one more connect request -/
def sayHello (m : Session) (now : Instant) : Step :=
  ({ m with nextHello := some (now + m.config.helloInterval) }, sending (.hello m.helloId .request))

end Session

end VisionMixer
