/-
What a session does with a datagram.

Datagrams that cannot be read, that belong to another session or that come after the end are dropped. A hello packet
moves the handshake on or ends the session. Any other packet may acknowledge what was sent, ask for it again, and carry
a payload; payloads are delivered in sequence, each once, and held for a while when one before them is missing.
-/
import VisionMixer.Session.Machine

namespace VisionMixer.Session

/-- the delivery of a payload; an empty or malformed one is not delivered -/
def delivery (payload : Bytes) : List SessionAction :=
  if payload = [] then []
  else
    match Record.split payload with
    | .ok records => [.deliver records]
    | .error _ => []

/-- what follows a hello packet -/
def receiveHello (m : Session) (p : Packet) (now : Instant) : Step :=
  match m.phase, p.connectCode? with
  | .connecting, some .accepted =>
    ({ m with phase := .handshaking, lastReceived := some now, nextHello := none },
      sending (.ack p.header.sessionId 0) ++ [.phaseChanged .handshaking])
  | .handshaking, some .accepted => (m, sending (.ack p.header.sessionId 0))
  | .connecting, some .refused => m.terminate .refused
  | _, some .disconnect => m.terminate .remoteClosed
  | _, _ => m.still

/-- packets up to an id have an outcome, from the front on -/
def acknowledge (m : Session) (id : PacketId) : Step :=
  let done (p : InFlight) : Bool := p.id = id || PacketId.isBefore p.id id
  ({ m with inFlight := m.inFlight.dropWhile done }, (m.inFlight.takeWhile done).map (.acknowledged ·.id))

/-- packets from an id on are sent once more -/
def resendFrom (m : Session) (id : PacketId) (now : Instant) : Step :=
  let wanted (p : InFlight) : Bool := !PacketId.isBefore p.id id
  ({ m with inFlight := m.inFlight.map fun p => if wanted p then { p with sentAt := now } else p },
    sendingAll ((m.inFlight.filter wanted).map (·.packet.resent)))

/-- the payload whose turn it is -/
def take (m : Session) (payload : Bytes) : Step :=
  ({ m with nextRemoteId := PacketId.next m.nextRemoteId }, delivery payload)

/-- held payloads whose turn has come, at most `fuel` of them -/
def drain : Nat → Session → Step
  | 0, m => m.still
  | fuel + 1, m =>
    match m.reorder.get? m.nextRemoteId with
    | none => m.still
    | some payload => Step.next (take { m with reorder := m.reorder.erase m.nextRemoteId } payload) (drain fuel)

/-- an acknowledgement of everything before the next expected packet -/
def acknowledgement (m : Session) : List SessionAction :=
  match m.sessionId with
  | some id => sending (.ack id (PacketId.previous m.nextRemoteId))
  | none => []

/-- a request for everything from the next expected packet on -/
def complaint (m : Session) : List SessionAction :=
  match m.sessionId with
  | some id => sending (.retransmitRequest id m.nextRemoteId)
  | none => []

/-- the session with a payload held, if it is inside the window and there is room -/
def hold (m : Session) (id : PacketId) (payload : Bytes) : Session :=
  if (PacketId.distance m.nextRemoteId id).toNat ≤ m.config.reorderWindow ∧ m.reorder.size < m.config.reorderWindow then
    { m with reorder := m.reorder.ensure id payload }
  else m

/-- a packet put in sequence: delivered with all that waited for it, known already, or too early -/
def sequence (m : Session) (id : PacketId) (payload : Bytes) : Step :=
  if id = m.nextRemoteId then
    ((m.take payload).next (drain m.reorder.size)).next fun m => (m, m.acknowledgement)
  else if PacketId.isBefore id m.nextRemoteId then (m, m.acknowledgement)
  else (m.hold id payload, m.complaint)

/-- the session after a packet has shown it its id, none if the packet is not of this session -/
def recognize? (m : Session) (h : Header) : Option Session :=
  match m.sessionId with
  | some id => if h.sessionId = id then some m else none
  | none => if m.phase = .handshaking then some { m with sessionId := some h.sessionId } else none

/-- what follows a packet of this session -/
def receiveData (m : Session) (p : Packet) (now : Instant) : Step :=
  let m := { m with lastReceived := some now }
  ((if p.header.flags.contains .ackReply then m.acknowledge p.header.ackId else m.still).next fun m =>
    if p.header.flags.contains .retransmitRequest then m.resendFrom p.header.resendFrom now else m.still).next fun m =>
      if p.header.flags.contains .ackRequest then m.sequence p.header.packetId p.payload else m.still

/-- what follows a datagram -/
def receive (m : Session) (datagram : Bytes) (now : Instant) : Step :=
  if m.phase.isTerminal then m.still
  else
    match Packet.decode datagram with
    | .error _ => m.still
    | .ok p =>
      if p.header.flags.contains .hello then m.receiveHello p now
      else
        match m.recognize? p.header with
        | none => m.still
        | some m => m.receiveData p now

end VisionMixer.Session
