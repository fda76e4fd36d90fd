/-
The owner of a session: it carries out what the session asks for.

A `Client` reads and writes its link, decodes what is delivered, keeps the tree and the profile, and tells those who
wait for an acknowledgement what became of it. `carryOut` is one action of the session; it may make the session queue
further actions, and `flush` carries out those as well. A packet with any record that cannot be decoded changes nothing.
The session goes live when the end of the handshake has been applied to the tree. Its callers see the phase that was
last published, which follows that of the session as its actions are carried out.
-/
import VisionMixer.Client.Ending
import VisionMixer.Client.Inbox
import VisionMixer.Client.Link
import VisionMixer.Command.Codec
import VisionMixer.Device.Apply
import VisionMixer.Profile
import VisionMixer.Session.Handle

namespace VisionMixer

/-- an applied command and the paths it changed -/
structure StateChange where
  command : String
  paths : ChangedPaths

/-- what a client tells -/
inductive Report where
  /-- a datagram was written to the link -/
  | sent (datagram : Bytes)
  | changed (change : StateChange)
  /-- the outcome of a send, by its ticket -/
  | completed (ticket : Nat) (outcome : Except Error Unit)
  | told (notice : Notice)

/-- the owner of a session -/
structure Client where
  link : Link
  /-- what its callers have asked for and it has not served yet -/
  inbox : Inbox
  session : Session
  codec : Codec
  /-- commands seen so far, while the handshake lasts -/
  burst : Option (List Command)
  /-- known once the handshake is over -/
  profile : Option Profile
  tree : DeviceTree
  /-- tickets of sends without an outcome, by the id of their packet -/
  pending : IdMap PacketId Nat
  /-- the phase that callers see -/
  published : Phase
  ending : Ending

/-- a client after something, what it told on the way, and what its session queued meanwhile -/
structure Turn where
  client : Client
  reports : List Report
  queued : List SessionAction

namespace Client

/-- a client that has not started -/
def initial (link : Link) (config : SessionConfig) (helloId : UInt16) : Client := {
  link
  inbox := .empty
  session := .initial config helloId
  codec := {}
  burst := some []
  profile := none
  tree := .empty
  pending := ∅
  published := .connecting
  ending := .awaited }

/-- nothing happens -/
def still (c : Client) : Turn := ⟨c, [], []⟩

/-- the device is not reachable yet, which the hello timer takes care of -/
def isTransient (c : Client) (f : SocketFault) : Bool := f.refused && c.session.phase = .connecting

/-- the session ended by its socket, unless the fault is to be expected -/
def fail (c : Client) (f : SocketFault) : Turn :=
  if c.isTransient f then c.still
  else
    let s := c.session.terminate (.socketFailed f.message)
    ⟨{ c with session := s.1 }, [], s.2⟩

/-- a datagram written to the link -/
def write (c : Client) (datagram : Bytes) : Turn :=
  match c.link.write with
  | (none, link) => ⟨{ c with link }, [.sent datagram], []⟩
  | (some f, link) => { c with link }.fail f

/-- the outcome of the packet of an id, for whoever waits for it -/
def complete (c : Client) (id : PacketId) (outcome : Except Error Unit) : Turn :=
  match c.pending.get? id with
  | none => c.still
  | some ticket => ⟨{ c with pending := c.pending.erase id }, [.completed ticket outcome], []⟩

/-- commands taken into the profile, which is drawn up at the end of the handshake; then the second part is true -/
def observe (c : Client) (commands : List Command) : Client × Bool :=
  match c.burst with
  | none => (c, false)
  | some seen =>
    if commands.any Command.isInitComplete then
      let burst := seen ++ commands.takeWhile (!·.isInitComplete)
      ({ c with burst := none, profile := some (.ofBurst burst) }, true)
    else ({ c with burst := some (seen ++ commands) }, false)

/-- the tree after commands, and the changes they made -/
def applyCommands (t : DeviceTree) : List Command → DeviceTree × List StateChange
  | [] => (t, [])
  | command :: rest =>
    let (t, paths) := t.apply command
    let (t, changes) := applyCommands t rest
    (t, (if paths.isEmpty then [] else [⟨command.tag.text, paths⟩]) ++ changes)

/-- the records of a packet -/
def deliver (c : Client) (records : List Record) : Turn :=
  match c.codec.decodePayload records with
  | .error _ => c.still
  | .ok (commands, codec) =>
    let (c, isComplete) := { c with codec }.observe commands
    let (tree, changes) := applyCommands c.tree commands
    let s := if isComplete then c.session.initComplete else c.session.still
    ⟨{ c with tree, session := s.1 }, changes.map .changed, s.2⟩

/-- one action of the session -/
def carryOut (c : Client) : SessionAction → Turn
  | .transmit datagram => c.write datagram
  | .deliver records => c.deliver records
  | .acknowledged id => c.complete id (.ok ())
  | .sendFailed id => c.complete id (.error .disconnected)
  | .phaseChanged phase => { c with published := phase }.still
  | .disconnected reason =>
    let (ending, notices) := c.ending.record reason
    ⟨{ c with ending }, notices.map .told, []⟩

/-- actions of the session one after another -/
def carryOutAll (c : Client) (actions : List SessionAction) : Turn :=
  actions.foldl (fun t a =>
    let u := t.client.carryOut a
    ⟨u.client, t.reports ++ u.reports, t.queued ++ u.queued⟩) c.still

/-- actions of the session and those queued meanwhile, which queue no others -/
def flush (c : Client) (actions : List SessionAction) : Client × List Report :=
  let first := c.carryOutAll actions
  let second := first.client.carryOutAll first.queued
  (second.client, first.reports ++ second.reports)

/-- the client after a step of its session -/
def follow (c : Client) (s : Step) : Client × List Report := { c with session := s.1 }.flush s.2

end Client

end VisionMixer
