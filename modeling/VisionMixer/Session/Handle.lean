/-
The session as a whole: one event after another.

`handle` says what an event does, or why it is refused; a refused event changes nothing. `step` is the session after an
event whatever became of it, and `run` a history of events.
-/
import VisionMixer.Session.Receive
import VisionMixer.Session.Timers

namespace VisionMixer

/-- what an accepted event did; a payload to be sent was given an id -/
structure Reaction where
  session : Session
  actions : List SessionAction
  id : Option PacketId

namespace Session

/-- a reaction without an id -/
def reacting (s : Step) : Reaction := ⟨s.1, s.2, none⟩

/-- the first connect request -/
def connect (m : Session) (now : Instant) : Except Error Reaction :=
  match m.startedAt with
  | some _ => .error (.transport .alreadyStarted)
  | none => .ok (reacting ({ m with startedAt := some now }.sayHello now))

/-- a payload sent under the next id; only a live session sends -/
def send (m : Session) (payload : Bytes) (now : Instant) : Except Error Reaction :=
  if m.phase.isTerminal then .error .disconnected
  else if m.phase ≠ .live then .error (.transport (.notLive m.phase))
  else
    match m.sessionId with
    | none => .error (.transport .noSessionId)
    | some sessionId => do
      let id := m.nextLocalId
      let packet := Packet.data sessionId id payload
      let datagram ← packet.encode
      return {
        session := { m with
          nextLocalId := PacketId.next id
          inFlight := m.inFlight ++ [{ id, packet, sentAt := now, retransmits := 0 }] }
        actions := [.transmit datagram]
        id := some id }

/-- the end of the handshake; outside a handshake it means nothing -/
def initComplete (m : Session) : Step := if m.phase = .handshaking then m.enter .live else m.still

/-- the end from this side; the device is told if it was ever spoken to -/
def close (m : Session) : Step :=
  if m.phase.isTerminal then m.still
  else
    let farewell := if m.startedAt.isSome then sending (.hello (m.sessionId.getD m.helloId) .disconnect) else []
    Step.next (m, farewell) fun m => m.terminate .closed

/-- what an event does, or why it is refused -/
def handle (m : Session) (e : SessionEvent) (now : Instant) : Except Error Reaction :=
  match e with
  | .connect => m.connect now
  | .datagram bytes => .ok (reacting (m.receive bytes now))
  | .tick => .ok (reacting (m.tick now))
  | .send payload => m.send payload now
  | .initComplete => .ok (reacting m.initComplete)
  | .close => .ok (reacting m.close)
  | .socketFailed message => .ok (reacting (m.terminate (.socketFailed message)))

/-- the session after an event and the actions it queued -/
def step (m : Session) (e : SessionEvent × Instant) : Step :=
  match m.handle e.1 e.2 with
  | .ok r => (r.session, r.actions)
  | .error _ => m.still

/-- the session after a history and all actions it queued -/
def run (m : Session) (events : List (SessionEvent × Instant)) : Step :=
  events.foldl (fun s e => s.next fun m => m.step e) m.still

end Session

end VisionMixer
