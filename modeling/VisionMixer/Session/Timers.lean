/-
What a session does as time passes.

`deadline` is the earliest instant at which a tick does anything; `tick` says hello again, ends a session that took too
long or fell silent, and sends again what has been waiting for the retransmit interval.

Deadlines are sums of an instant and a configured duration. A clock cannot represent all of these, since nothing bounds the
durations of a configuration; what is said here assumes one that can.
-/
import VisionMixer.Session.Machine

namespace VisionMixer.Session

/-- the handshake is still going on -/
def isOpening (m : Session) : Bool := m.phase = .connecting ∨ m.phase = .handshaking

/-- when the handshake must be over -/
def handshakeDeadline (m : Session) : Option Instant :=
  if m.isOpening then m.startedAt.map (· + m.config.handshakeTimeout) else none

/-- when to say hello again -/
def helloDeadline (m : Session) : Option Instant := if m.phase = .connecting then m.nextHello else none

/-- when the device counts as gone -/
def keepaliveDeadline (m : Session) : Option Instant := m.lastReceived.map (· + m.config.keepaliveTimeout)

/-- when a packet is to be sent again -/
def resendDeadline (m : Session) (p : InFlight) : Instant := p.sentAt + m.config.retransmitInterval

/-- all instants at which something is due -/
def deadlines (m : Session) : List Instant :=
  m.handshakeDeadline.toList ++ m.helloDeadline.toList ++ m.keepaliveDeadline.toList ++ m.inFlight.map m.resendDeadline

/-- the earliest instant at which a tick is needed -/
def deadline (m : Session) : Option Instant := if m.phase.isTerminal then none else m.deadlines.min?

/-- an instant has come -/
def isDue (now : Instant) (at? : Option Instant) : Bool := at?.any (· ≤ now)

/-- a packet is due that has no attempts left -/
def isExhausted (m : Session) (now : Instant) : Bool :=
  m.inFlight.any fun p => m.resendDeadline p ≤ now && m.config.maxRetransmits ≤ p.retransmits

/-- packets that are due are sent once more -/
def resendDue (m : Session) (now : Instant) : Step :=
  let due (p : InFlight) : Bool := m.resendDeadline p ≤ now
  ({ m with inFlight := m.inFlight.map fun p =>
      if due p then { p with retransmits := p.retransmits + 1, sentAt := now } else p },
    sendingAll ((m.inFlight.filter due).map (·.packet.resent)))

/-- what follows the passing of time -/
def tick (m : Session) (now : Instant) : Step :=
  if m.phase.isTerminal then m.still
  else if isDue now m.handshakeDeadline then m.terminate .handshakeTimeout
  else
    Step.next (if isDue now m.helloDeadline then m.sayHello now else m.still) fun m =>
      if isDue now m.keepaliveDeadline then m.terminate .keepaliveTimeout
      else if m.isExhausted now then m.terminate .retransmitExhausted
      else m.resendDue now

end VisionMixer.Session
