/-
What can be done with a client, and what happens to it.

A client starts by connecting; its caller waits until it is live or has ended. From then on it serves the requests that
wait in its inbox, its link is read, and time passes. Requests are made at any time, whatever the client is at. Once the
session has ended the client stops: whoever still waits for an acknowledgement is told so, and so is whoever waits in the
inbox or comes later.
-/
import VisionMixer.Client.Basic

namespace VisionMixer.Client

/-- what happens to a client -/
inductive Input where
  /-- somebody who holds the session asks for something -/
  | request (r : Request)
  /-- nobody holds the session any more -/
  | abandon
  /-- the owner serves the request in front -/
  | serve
  | arrival (a : Arrival)
  | tick
  /-- the link changes, as the network and the other end please -/
  | relink (link : Link)

/-- the session has ended -/
def hasEnded (c : Client) : Bool := c.session.phase = .disconnected

/-- a client that has stopped, if its session has ended: what was asked of it and has no outcome has failed -/
def settle (c : Client) (reports : List Report) : Client × List Report :=
  if c.hasEnded then
    ({ c with pending := ∅, inbox := c.inbox.close },
      reports ++ (c.pending.entries.map (·.2) ++ c.inbox.tickets).map (.completed · (.error .disconnected)))
  else (c, reports)

/-- a step of the session carried out to the end -/
def perform (c : Client) (s : Step) : Client × List Report :=
  let (c, reports) := c.follow s
  c.settle reports

/-- a payload handed to the session; an id that was in use loses its ticket -/
def sendPayload (c : Client) (payload : Bytes) (ticket : Nat) (now : Instant) : Client × List Report :=
  match c.session.send payload now with
  | .error e => (c, [.completed ticket (.error e)])
  | .ok r =>
    let id := r.id.getD 0
    let lost := (c.pending.get? id).toList.map fun old => Report.completed old (.error .disconnected)
    let (c, reports) := { c with pending := c.pending.insert id ticket }.perform (r.session, r.actions)
    (c, lost ++ reports)

/-- a request served -/
def grant (c : Client) (now : Instant) : Request → Client × List Report
  | .send payload ticket => c.sendPayload payload ticket now
  | .close => c.perform c.session.close

/-- a request put into the inbox, or turned away by one that is closed -/
def ask (c : Client) (r : Request) : Client × List Report :=
  match c.inbox.push? r with
  | some inbox => ({ c with inbox }, [])
  | none => (c, r.ticket?.toList.map (.completed · (.error .disconnected)))

/-- what follows an input -/
def handle (c : Client) (now : Instant) : Input → Client × List Report
  | .request r => c.ask r
  | .abandon => ({ c with inbox := c.inbox.abandon }, [])
  | .serve =>
    if c.hasEnded then (c, [])
    else
      match c.inbox.next? with
      | none => (c, [])
      | some (r, inbox) => { c with inbox }.grant now r
  | .arrival (.datagram bytes) => if c.hasEnded then (c, []) else c.perform (c.session.receive bytes now)
  | .arrival (.fault f) =>
    if c.hasEnded then (c, [])
    else
      let t := c.fail f
      t.client.perform (t.client.session, t.queued)
  | .tick => if c.hasEnded then (c, []) else c.perform (c.session.tick now)
  | .relink link => ({ c with link }, [])

/-- the client after a history and all it told -/
def run (c : Client) (history : List (Input × Instant)) : Client × List Report :=
  history.foldl (fun r i =>
    let (c, reports) := r.1.handle i.2 i.1
    (c, r.2 ++ reports)) (c, [])

/-- everything that waits on the link is read, at most `fuel` things -/
def readUpTo (now : Instant) : Nat → Client → Client × List Report
  | 0, c => (c, [])
  | fuel + 1, c =>
    if c.hasEnded then (c, [])
    else
      match c.link.read with
      | none => (c, [])
      | some (a, link) =>
        let (c, reports) := { c with link }.handle now (.arrival a)
        let (c, more) := readUpTo now fuel c
        (c, reports ++ more)

/-- everything that waits on the link is read; a closed link gives one more fault, and two end any session -/
def readAll (c : Client) (now : Instant) : Client × List Report := readUpTo now (c.link.waiting.length + 2) c

/-- a client that connects over a link -/
def connect (link : Link) (config : SessionConfig) (helloId : UInt16) (now : Instant) :
    Except Error (Client × List Report) := do
  config.validate
  let c := initial link config helloId
  let r ← c.session.connect now
  let (c, reports) := c.perform (r.session, r.actions)
  let (c, more) := c.readAll now
  return (c, reports ++ more)

/-- how connecting went, none while it goes on -/
def connected? (c : Client) : Option (Except Error Unit) :=
  match c.published with
  | .live => some (.ok ())
  | .disconnected => some (.error ((c.ending.reason.map EndReason.toError).getD .disconnected))
  | _ => none

/-- a listener to the end of the session -/
def listen (c : Client) (listener : Nat) : Client × List Report :=
  let (ending, notices) := c.ending.register listener
  ({ c with ending }, notices.map .told)

/-- bytes that a packet of the device may have -/
def maxPacketSize : Nat := 1500

/-- the payload of commands, if the session is live and they fit into one packet -/
def payloadOf (c : Client) (commands : List Command) : Except Error Bytes :=
  if c.published.isTerminal then .error .disconnected
  else if c.published ≠ .live then .error (.transport (.notLive c.published))
  else do
    let payload ← c.codec.encodePayload commands
    if maxPacketSize < Header.size + payload.length then .error (.encoding (.oversizedPayload payload.length))
    else return payload

/-- time passes from one deadline of the session to the next until the session has ended, at most `fuel` times -/
def waitUpTo : Nat → Client → Instant → Client × List Report × Instant
  | 0, c, now => (c, [], now)
  | fuel + 1, c, now =>
    if c.hasEnded then (c, [], now)
    else
      match c.session.deadline with
      | none => (c, [], now)
      | some deadline =>
        let now := max now deadline
        let (c, reports) := c.handle now .tick
        let (c, more, now) := waitUpTo fuel c now
        (c, reports ++ more, now)

/-- deadlines that a silent session can meet before it ends: hellos, and each packet in flight until silence counts -/
def patience (c : Client) : Nat :=
  let config := c.session.config
  let hellos := config.handshakeTimeout / config.helloInterval
  let resends := config.keepaliveTimeout / config.retransmitInterval
  hellos + (resends + 1) * c.session.inFlight.length + 3

/-- time passes until the session has ended -/
def waitEnd (c : Client) (now : Instant) : Client × List Report × Instant := waitUpTo c.patience c now

end VisionMixer.Client
