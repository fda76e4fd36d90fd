/-
A session that comes to a halt where its arithmetic or its writing fails.

`step?` does what `Session.step` does, but has no result if a sum of ids leaves sixteen bits, or if a packet that the
session makes of its own accord does not fit into a datagram. A payload that is too long is refused as ever: it comes
from outside. `Inside` is the invariant: every id that the session has is in the id space, and what is in flight can be
sent. It holds at the start, and whatever happens to a session inside, nothing fails on the way, it is inside afterwards,
and every datagram it has queued can be read (`Clean`, one lemma for each handler). So it is with every history
(`never_fails`).
-/
import VisionMixer.Proofs.Session.Window

namespace VisionMixer

/-! ### Sums and packets that may fail -/

/-- the id after another, none if the sum leaves sixteen bits -/
def PacketId.next? (id : PacketId) : Option PacketId :=
  if id.toNat + 1 < UInt16.size then some (next id) else none

/-- the id before another, none if the sum leaves sixteen bits -/
def PacketId.previous? (id : PacketId) : Option PacketId :=
  if id.toNat + space.toNat < UInt16.size then some (previous id) else none

/-- a step and then another, if there are both -/
def Step.next? (s : Option Step) (f : Session → Option Step) : Option Step := do
  let s ← s
  let t ← f s.1
  return (t.1, s.2 ++ t.2)

namespace Session

/-- the action that sends a packet, none if it is too long for the wire -/
def sending? (p : Packet) : Option (List SessionAction) :=
  match p.encode with
  | .ok datagram => some [.transmit datagram]
  | .error _ => none

/-- the actions that send packets -/
def sendingAll? (packets : List Packet) : Option (List SessionAction) := List.flatten <$> packets.mapM sending?

/-- one more connect request -/
def sayHello? (m : Session) (now : Instant) : Option Step := do
  return ({ m with nextHello := some (now + m.config.helloInterval) }, ← sending? (.hello m.helloId .request))

/-- what follows a hello packet -/
def receiveHello? (m : Session) (p : Packet) (now : Instant) : Option Step :=
  match m.phase, p.connectCode? with
  | .connecting, some .accepted => do
    return ({ m with phase := .handshaking, lastReceived := some now, nextHello := none },
      (← sending? (.ack p.header.sessionId 0)) ++ [.phaseChanged .handshaking])
  | .handshaking, some .accepted => do return (m, ← sending? (.ack p.header.sessionId 0))
  | .connecting, some .refused => some (m.terminate .refused)
  | _, some .disconnect => some (m.terminate .remoteClosed)
  | _, _ => some m.still

/-- packets from an id on are sent once more -/
def resendFrom? (m : Session) (id : PacketId) (now : Instant) : Option Step := do
  let wanted (p : InFlight) : Bool := !PacketId.isBefore p.id id
  let inFlight := m.inFlight.map fun p => if wanted p then { p with sentAt := now } else p
  return ({ m with inFlight }, ← sendingAll? ((m.inFlight.filter wanted).map (·.packet.resent)))

/-- the payload whose turn it is -/
def take? (m : Session) (payload : Bytes) : Option Step := do
  return ({ m with nextRemoteId := ← PacketId.next? m.nextRemoteId }, delivery payload)

/-- held payloads whose turn has come, at most `fuel` of them -/
def drain? : Nat → Session → Option Step
  | 0, m => some m.still
  | fuel + 1, m =>
    match m.reorder.get? m.nextRemoteId with
    | none => some m.still
    | some payload => Step.next? (take? { m with reorder := m.reorder.erase m.nextRemoteId } payload) (drain? fuel)

/-- an acknowledgement of everything before the next expected packet -/
def acknowledgement? (m : Session) : Option (List SessionAction) := do
  let last ← PacketId.previous? m.nextRemoteId
  match m.sessionId with
  | some id => sending? (.ack id last)
  | none => return []

/-- a request for everything from the next expected packet on -/
def complaint? (m : Session) : Option (List SessionAction) :=
  match m.sessionId with
  | some id => sending? (.retransmitRequest id m.nextRemoteId)
  | none => some []

/-- a packet put in sequence: delivered with all that waited for it, known already, or too early -/
def sequence? (m : Session) (id : PacketId) (payload : Bytes) : Option Step :=
  if id = m.nextRemoteId then
    Step.next? (Step.next? (m.take? payload) (drain? m.reorder.size)) fun m => do return (m, ← m.acknowledgement?)
  else if PacketId.isBefore id m.nextRemoteId then do return (m, ← m.acknowledgement?)
  else do return (m.hold id payload, ← m.complaint?)

/-- what follows a packet of this session -/
def receiveData? (m : Session) (p : Packet) (now : Instant) : Option Step :=
  let m := { m with lastReceived := some now }
  let acknowledged := if p.header.flags.contains .ackReply then m.acknowledge p.header.ackId else m.still
  Step.next? (Step.next? (some acknowledged) fun m =>
    if p.header.flags.contains .retransmitRequest then m.resendFrom? p.header.resendFrom now else some m.still) fun m =>
      if p.header.flags.contains .ackRequest then m.sequence? p.header.packetId p.payload else some m.still

/-- what follows a datagram -/
def receive? (m : Session) (datagram : Bytes) (now : Instant) : Option Step :=
  if m.phase.isTerminal then some m.still
  else
    match Packet.decode datagram with
    | .error _ => some m.still
    | .ok p =>
      if p.header.flags.contains .hello then m.receiveHello? p now
      else
        match m.recognize? p.header with
        | none => some m.still
        | some m => m.receiveData? p now

/-- packets that are due are sent once more -/
def resendDue? (m : Session) (now : Instant) : Option Step := do
  let due (p : InFlight) : Bool := m.resendDeadline p ≤ now
  let inFlight := m.inFlight.map fun p =>
    if due p then { p with retransmits := p.retransmits + 1, sentAt := now } else p
  return ({ m with inFlight }, ← sendingAll? ((m.inFlight.filter due).map (·.packet.resent)))

/-- what follows the passing of time -/
def tick? (m : Session) (now : Instant) : Option Step :=
  if m.phase.isTerminal then some m.still
  else if isDue now m.handshakeDeadline then some (m.terminate .handshakeTimeout)
  else
    Step.next? (if isDue now m.helloDeadline then m.sayHello? now else some m.still) fun m =>
      if isDue now m.keepaliveDeadline then some (m.terminate .keepaliveTimeout)
      else if m.isExhausted now then some (m.terminate .retransmitExhausted)
      else m.resendDue? now

/-- the first connect request; a second one is refused -/
def connect? (m : Session) (now : Instant) : Option Step :=
  match m.startedAt with
  | some _ => some m.still
  | none => { m with startedAt := some now }.sayHello? now

/-- a payload sent under the next id, unless the session is not live or the payload too long -/
def send? (m : Session) (payload : Bytes) (now : Instant) : Option Step :=
  if m.phase ≠ .live then some m.still
  else
    match m.sessionId with
    | none => some m.still
    | some sessionId =>
      let packet := Packet.data sessionId m.nextLocalId payload
      match packet.encode with
      | .error _ => some m.still
      | .ok datagram => do
        return ({ m with
          nextLocalId := ← PacketId.next? m.nextLocalId
          inFlight := m.inFlight ++ [{ id := m.nextLocalId, packet, sentAt := now, retransmits := 0 }] },
          [.transmit datagram])

/-- the end from this side; the device is told if it was ever spoken to -/
def close? (m : Session) : Option Step :=
  if m.phase.isTerminal then some m.still
  else
    let farewell? := if m.startedAt.isSome then sending? (.hello (m.sessionId.getD m.helloId) .disconnect) else some []
    Step.next? (do return (m, ← farewell?)) fun m => some (m.terminate .closed)

/-- the session after an event and the actions it queued -/
def step? (m : Session) (e : SessionEvent × Instant) : Option Step :=
  match e.1 with
  | .connect => m.connect? e.2
  | .datagram bytes => m.receive? bytes e.2
  | .tick => m.tick? e.2
  | .send payload => m.send? payload e.2
  | .initComplete => some m.initComplete
  | .close => m.close?
  | .socketFailed message => some (m.terminate (.socketFailed message))

/-- the session after a history and all actions it queued -/
def run? (m : Session) (events : List (SessionEvent × Instant)) : Option Step :=
  events.foldl (fun s e => Step.next? s fun m => m.step? e) (some m.still)

end Session

/-! ### Ids in their space -/

namespace PacketId

variable {id : PacketId}

theorem zero_lt_space : (0 : PacketId) < space := by decide

theorem next_lt_space (id : PacketId) : next id < space := by
  rw [next, UInt16.lt_iff_toNat_lt, UInt16.toNat_mod]
  exact Nat.mod_lt _ (by decide)

theorem previous_lt_space (id : PacketId) : previous id < space := by
  rw [previous, UInt16.lt_iff_toNat_lt, UInt16.toNat_mod]
  exact Nat.mod_lt _ (by decide)

theorem next?_of_lt (h : id < space) : next? id = some (next id) := by
  rw [lt_space_iff] at h
  refine if_pos ?_
  rw [UInt16.size]
  omega

/-- twice the id space is all of sixteen bits -/
theorem previous?_of_lt (h : id < space) : previous? id = some (previous id) := by
  rw [lt_space_iff] at h
  refine if_pos ?_
  rw [toNat_space, UInt16.size]
  omega

example : next? 0xFFFF = none ∧ previous? space = none := by decide

end PacketId

/-! ### Packets that can be sent and read -/

/-- a packet whose ids are in their space, short enough for a datagram -/
structure Packet.Sound (p : Packet) : Prop where
  packetId : p.header.packetId < PacketId.space
  ackId : p.header.ackId < PacketId.space
  resendFrom : p.header.resendFrom < PacketId.space
  fits : Session.Fits p.payload

theorem Packet.Sound.resent {p : Packet} (h : p.Sound) : p.resent.Sound := ⟨h.packetId, h.ackId, h.resendFrom, h.fits⟩

namespace Session

variable {m : Session} {p : Packet} {id : PacketId} {sessionId : UInt16} {payload : Bytes} {now : Instant} {s : Step}
  {s? : Option Step} {actions : List SessionAction}

theorem sound_hello (sessionId : UInt16) (code : ConnectCode) : (Packet.hello sessionId code).Sound :=
  ⟨PacketId.zero_lt_space, PacketId.zero_lt_space, PacketId.zero_lt_space, by
    simp [Packet.hello, Fits, Bytes.zeros, Header.size, Header.maxLength]⟩

theorem sound_ack (sessionId : UInt16) (h : id < PacketId.space) : (Packet.ack sessionId id).Sound :=
  ⟨PacketId.zero_lt_space, h, PacketId.zero_lt_space, by simp [Packet.ack, Fits, Header.size, Header.maxLength]⟩

theorem sound_retransmitRequest (sessionId : UInt16) (h : id < PacketId.space) :
    (Packet.retransmitRequest sessionId id).Sound :=
  ⟨PacketId.zero_lt_space, PacketId.zero_lt_space, h, by
    simp [Packet.retransmitRequest, Fits, Header.size, Header.maxLength]⟩

theorem sound_data (sessionId : UInt16) (h : id < PacketId.space) (hfits : Fits payload) :
    (Packet.data sessionId id payload).Sound :=
  ⟨h, PacketId.zero_lt_space, PacketId.zero_lt_space, hfits⟩

/-- every datagram that is to be sent can be read -/
def Readable (actions : List SessionAction) : Prop :=
  ∀ d, .transmit d ∈ actions → ∃ p, Packet.decode d = .ok p

theorem Readable.append {a b : List SessionAction} (ha : Readable a) (hb : Readable b) : Readable (a ++ b) :=
  fun d hd => (List.mem_append.1 hd).elim (ha d) (hb d)

theorem Readable.of_no_transmit (h : ∀ d, .transmit d ∉ actions) : Readable actions := fun d hd => absurd hd (h d)

/-- **A sound packet** is sent, and can be read. -/
theorem sending?_of_sound (h : p.Sound) : sending? p = some (sending p) ∧ Readable (sending p) := by
  obtain ⟨datagram, hd⟩ := (encode_ok_iff p).2 h.fits
  have hinside : ¬(PacketId.space ≤ p.header.packetId ∨ PacketId.space ≤ p.header.ackId ∨
      PacketId.space ≤ p.header.resendFrom) := by
    simp only [not_or, UInt16.not_le]
    exact ⟨h.packetId, h.ackId, h.resendFrom⟩
  constructor
  · rw [sending?, sending, hd]
  · intro d hmem
    have hsame := transmit_mem_sending hmem
    rw [Packet.decode_encode hsame, if_neg hinside]
    exact ⟨_, rfl⟩

/-- sound packets are all sent, and can all be read -/
theorem sendingAll?_of_sound {packets : List Packet} (h : ∀ p ∈ packets, p.Sound) :
    sendingAll? packets = some (sendingAll packets) ∧ Readable (sendingAll packets) := by
  have hall : packets.mapM sending? = some (packets.map sending) := by
    induction packets with
    | nil => rfl
    | cons p packets ih =>
      obtain ⟨hp, hrest⟩ := List.forall_mem_cons.1 h
      rw [List.mapM_cons, (sending?_of_sound hp).1, ih hrest]
      rfl
  constructor
  · rw [sendingAll?, hall]
    rfl
  · intro d hd
    obtain ⟨p, hp, hmem⟩ := List.mem_flatMap.1 hd
    exact (sending?_of_sound (h p hp)).2 d hmem

/-! ### One handler after another -/

/-- the ids of a session are in their space, and what is in flight can be sent -/
structure Inside (m : Session) : Prop where
  nextLocalId : m.nextLocalId < PacketId.space
  nextRemoteId : m.nextRemoteId < PacketId.space
  inFlight : ∀ p ∈ m.inFlight, p.id < PacketId.space ∧ p.packet.Sound
  held : ∀ id payload, m.reorder.get? id = some payload → id < PacketId.space

/-- a step that does not fail on the way, leaves the session inside, and queues datagrams that can be read -/
structure Clean (s? : Option Step) (s : Step) : Prop where
  agrees : s? = some s
  inside : s.1.Inside
  readable : Readable s.2

theorem Clean.still (h : Inside m) : Clean (some m.still) m.still := ⟨rfl, h, .of_no_transmit fun _ => List.not_mem_nil⟩

/-- **Clean steps follow each other.** -/
theorem Clean.next {f? : Session → Option Step} {f : Session → Step} (h : Clean s? s)
    (hf : ∀ m, Inside m → Clean (f? m) (f m)) : Clean (Step.next? s? f?) (s.next f) := by
  obtain ⟨hsame, hinside, hread⟩ := hf s.1 h.inside
  refine ⟨?_, hinside, h.readable.append hread⟩
  rw [Step.next?, h.agrees, Option.bind_eq_bind, Option.bind_some, hsame]
  rfl

theorem Clean.ite {c : Prop} [Decidable c] {a? b? : Option Step} {a b : Step} (ha : c → Clean a? a)
    (hb : ¬c → Clean b? b) : Clean (if c then a? else b?) (if c then a else b) := by
  split
  · next hc => exact ha hc
  · next hc => exact hb hc

/-- actions that are queued, and nothing else -/
theorem Clean.queued {actions? : Option (List SessionAction)} (h : Inside m)
    (ha : actions? = some actions ∧ Readable actions) : Clean (do return (m, ← actions?)) (m, actions) := by
  refine ⟨?_, h, ha.2⟩
  rw [ha.1]
  rfl

/-- a change to what is in flight that leaves the packets as they are -/
theorem Inside.revised (h : Inside m) {f : InFlight → InFlight} (hf : ∀ p, (f p).id = p.id ∧ (f p).packet = p.packet) :
    Inside { m with inFlight := m.inFlight.map f } where
  nextLocalId := h.nextLocalId
  nextRemoteId := h.nextRemoteId
  inFlight q hq := by
    obtain ⟨p, hp, rfl⟩ := List.mem_map.1 hq
    rw [(hf p).1, (hf p).2]
    exact h.inFlight p hp
  held := h.held

/-- packets in flight that are sent once more -/
theorem Inside.resent (h : Inside m) (which : InFlight → Bool) :
    sendingAll? ((m.inFlight.filter which).map (·.packet.resent)) =
        some (sendingAll ((m.inFlight.filter which).map (·.packet.resent))) ∧
      Readable (sendingAll ((m.inFlight.filter which).map (·.packet.resent))) := by
  refine sendingAll?_of_sound fun q hq => ?_
  obtain ⟨p, hp, rfl⟩ := List.mem_map.1 hq
  exact (h.inFlight p (List.mem_filter.1 hp).1).2.resent

theorem clean_terminate (h : Inside m) (reason : EndReason) : Clean (some (m.terminate reason)) (m.terminate reason) := by
  unfold terminate
  split
  · exact .still h
  · exact ⟨rfl, ⟨h.nextLocalId, h.nextRemoteId, fun _ hp => (List.not_mem_nil hp).elim, fun _ _ hg => nomatch hg⟩,
      .of_no_transmit fun d hd => by simp at hd⟩

theorem clean_sayHello (h : Inside m) (now : Instant) : Clean (m.sayHello? now) (m.sayHello now) :=
  .queued ⟨h.nextLocalId, h.nextRemoteId, h.inFlight, h.held⟩ (sending?_of_sound (sound_hello _ _))

theorem clean_receiveHello (h : Inside m) (p : Packet) (now : Instant) :
    Clean (m.receiveHello? p now) (m.receiveHello p now) := by
  obtain ⟨hsent, hread⟩ := sending?_of_sound (sound_ack p.header.sessionId PacketId.zero_lt_space)
  unfold receiveHello? receiveHello
  cases p.connectCode? with
  | none => cases m.phase <;> exact .still h
  | some code =>
    cases code with
    | request | other _ => cases m.phase <;> exact .still h
    | accepted =>
      cases m.phase with
      | connecting =>
        refine ⟨?_, ⟨h.nextLocalId, h.nextRemoteId, h.inFlight, h.held⟩, hread.append (.of_no_transmit fun d hd => ?_)⟩
        · rw [hsent]
          rfl
        · simp at hd
      | handshaking => exact .queued h ⟨hsent, hread⟩
      | live | disconnecting | disconnected => exact .still h
    | refused =>
      cases m.phase with
      | connecting => exact clean_terminate h _
      | handshaking | live | disconnecting | disconnected => exact .still h
    | disconnect => cases m.phase <;> exact clean_terminate h _

theorem clean_acknowledge (h : Inside m) (id : PacketId) : Clean (some (m.acknowledge id)) (m.acknowledge id) := by
  refine ⟨rfl, ⟨h.nextLocalId, h.nextRemoteId, fun p hp => h.inFlight p ((List.dropWhile_sublist _).subset hp), h.held⟩,
    .of_no_transmit fun d hd => ?_⟩
  simp [acknowledge] at hd

theorem clean_resendFrom (h : Inside m) (id : PacketId) (now : Instant) :
    Clean (m.resendFrom? id now) (m.resendFrom id now) :=
  .queued (h.revised fun p => by split <;> exact ⟨rfl, rfl⟩) (h.resent _)

theorem clean_resendDue (h : Inside m) (now : Instant) : Clean (m.resendDue? now) (m.resendDue now) :=
  .queued (h.revised fun p => by split <;> exact ⟨rfl, rfl⟩) (h.resent _)

/-- the next id of the device is one more, and wraps -/
theorem clean_take (h : Inside m) (payload : Bytes) : Clean (m.take? payload) (m.take payload) := by
  refine ⟨?_, ⟨h.nextLocalId, PacketId.next_lt_space _, h.inFlight, h.held⟩,
    .of_no_transmit (no_transmit_delivery payload)⟩
  rw [take?, PacketId.next?_of_lt h.nextRemoteId]
  rfl

theorem Inside.erase (h : Inside m) (id : PacketId) : Inside { m with reorder := m.reorder.erase id } where
  nextLocalId := h.nextLocalId
  nextRemoteId := h.nextRemoteId
  inFlight := h.inFlight
  held j payload hg := by
    rw [IdMap.get?_erase] at hg
    split at hg
    · cases hg
    · exact h.held j payload hg

theorem clean_drain (fuel : Nat) (h : Inside m) : Clean (drain? fuel m) (drain fuel m) := by
  induction fuel generalizing m with
  | zero => exact .still h
  | succ fuel ih =>
    rw [drain?, drain]
    cases m.reorder.get? m.nextRemoteId with
    | none => exact .still h
    | some payload => exact (clean_take (h.erase _) payload).next fun _ => ih

theorem acknowledgement?_of_inside (h : Inside m) :
    m.acknowledgement? = some m.acknowledgement ∧ Readable m.acknowledgement := by
  rw [acknowledgement?, acknowledgement, PacketId.previous?_of_lt h.nextRemoteId]
  cases m.sessionId with
  | none => exact ⟨rfl, .of_no_transmit fun _ => List.not_mem_nil⟩
  | some id => exact sending?_of_sound (sound_ack id (PacketId.previous_lt_space _))

theorem complaint?_of_inside (h : Inside m) : m.complaint? = some m.complaint ∧ Readable m.complaint := by
  rw [complaint?, complaint]
  cases m.sessionId with
  | none => exact ⟨rfl, .of_no_transmit fun _ => List.not_mem_nil⟩
  | some id => exact sending?_of_sound (sound_retransmitRequest id h.nextRemoteId)

theorem Inside.hold (h : Inside m) (hid : id < PacketId.space) (payload : Bytes) : Inside (m.hold id payload) := by
  unfold Session.hold
  split
  · refine ⟨h.nextLocalId, h.nextRemoteId, h.inFlight, fun j content hg => ?_⟩
    rw [IdMap.get?_ensure, Option.or_eq_some_iff] at hg
    rcases hg with hg | ⟨-, hg⟩
    · exact h.held j content hg
    · split at hg
      · next heq => exact Id.toNat_inj heq ▸ hid
      · cases hg
  · exact h

/-- whatever id a packet carries, it is in its space -/
theorem clean_sequence (h : Inside m) (hid : id < PacketId.space) (payload : Bytes) :
    Clean (m.sequence? id payload) (m.sequence id payload) := by
  have hanswer : ∀ m : Session, Inside m → Clean (do return (m, ← m.acknowledgement?)) (m, m.acknowledgement) :=
    fun m hm => .queued hm (acknowledgement?_of_inside hm)
  refine .ite (fun _ => ?_) fun _ => .ite (fun _ => hanswer m h) fun _ => ?_
  · exact ((clean_take h payload).next fun _ => clean_drain _).next hanswer
  · exact .queued (h.hold hid payload) (complaint?_of_inside h)

theorem clean_receiveData (h : Inside m) (hid : p.header.packetId < PacketId.space) (now : Instant) :
    Clean (m.receiveData? p now) (m.receiveData p now) := by
  have hm : Inside { m with lastReceived := some now } := ⟨h.nextLocalId, h.nextRemoteId, h.inFlight, h.held⟩
  unfold receiveData? receiveData
  dsimp only
  refine .next (.next ?_ fun m hm => ?_) fun m hm => ?_
  · split
    · exact clean_acknowledge hm _
    · exact .still hm
  · exact .ite (fun _ => clean_resendFrom hm _ now) fun _ => .still hm
  · exact .ite (fun _ => clean_sequence hm hid p.payload) fun _ => .still hm

/-- any datagram at all -/
theorem clean_receive (h : Inside m) (datagram : Bytes) (now : Instant) :
    Clean (m.receive? datagram now) (m.receive datagram now) := by
  refine .ite (fun _ => .still h) fun _ => ?_
  cases hd : Packet.decode datagram with
  | error _ => exact .still h
  | ok p =>
    refine .ite (fun _ => clean_receiveHello h p now) fun _ => ?_
    cases hown : m.recognize? p.header with
    | none => exact .still h
    | some found =>
      have hfound : Inside found := by
        rw [recognize_eq hown]
        exact ⟨h.nextLocalId, h.nextRemoteId, h.inFlight, h.held⟩
      exact clean_receiveData hfound (Packet.packetId_of_decode hd) now

theorem clean_tick (h : Inside m) (now : Instant) : Clean (m.tick? now) (m.tick now) := by
  refine .ite (fun _ => .still h) fun _ => .ite (fun _ => clean_terminate h _) fun _ => .next ?_ fun m hm => ?_
  · exact .ite (fun _ => clean_sayHello h now) fun _ => .still h
  · exact .ite (fun _ => clean_terminate hm _) fun _ => .ite (fun _ => clean_terminate hm _) fun _ => clean_resendDue hm now

theorem clean_initComplete (h : Inside m) : Clean (some m.initComplete) m.initComplete := by
  refine ⟨rfl, ?_, .of_no_transmit fun d hd => ?_⟩
  · unfold initComplete enter
    split_ifs
    · exact h
    · exact ⟨h.nextLocalId, h.nextRemoteId, h.inFlight, h.held⟩
    · exact h
  · unfold initComplete enter at hd
    split_ifs at hd <;> simp [still] at hd

theorem clean_close (h : Inside m) : Clean m.close? m.close := by
  refine .ite (fun _ => .still h) fun _ => .next (.queued h ?_) fun m hm => clean_terminate hm _
  split
  · exact sending?_of_sound (sound_hello _ _)
  · exact ⟨rfl, .of_no_transmit fun _ => List.not_mem_nil⟩

theorem clean_connect (h : Inside m) (now : Instant) : Clean (m.connect? now) (m.step (.connect, now)) := by
  unfold connect? step handle connect
  cases m.startedAt with
  | none =>
    have hstarted : Inside { m with startedAt := some now } := ⟨h.nextLocalId, h.nextRemoteId, h.inFlight, h.held⟩
    exact clean_sayHello hstarted now
  | some _ => exact .still h

/-- the next id of this side is one more, and wraps -/
theorem clean_send (h : Inside m) (payload : Bytes) (now : Instant) :
    Clean (m.send? payload now) (m.step (.send payload, now)) := by
  unfold send? step handle send
  cases m.phase with
  | live =>
    cases m.sessionId with
    | none => exact .still h
    | some sessionId =>
      cases hd : (Packet.data sessionId m.nextLocalId payload).encode with
      | error _ =>
        dsimp only
        rw [hd]
        exact .still h
      | ok datagram =>
        have hfits : Fits payload := (encode_ok_iff _).1 ⟨datagram, hd⟩
        have hsound := sound_data sessionId h.nextLocalId hfits
        obtain ⟨-, hread⟩ := sending?_of_sound hsound
        rw [sending, hd] at hread
        dsimp only
        rw [hd]
        refine ⟨?_, ⟨PacketId.next_lt_space _, h.nextRemoteId, fun p hp => ?_, h.held⟩, hread⟩
        · rw [PacketId.next?_of_lt h.nextLocalId]
          rfl
        · rcases List.mem_append.1 hp with hp | hp
          · exact h.inFlight p hp
          · rw [List.mem_singleton.1 hp]
            exact ⟨h.nextLocalId, hsound⟩
  | connecting | handshaking | disconnecting | disconnected => exact .still h

/-! ### Histories -/

/-- **One event**, whatever it is. -/
theorem clean_step (h : Inside m) (e : SessionEvent × Instant) : Clean (m.step? e) (m.step e) := by
  obtain ⟨event, now⟩ := e
  cases event with
  | connect => exact clean_connect h now
  | datagram bytes => exact clean_receive h bytes now
  | tick => exact clean_tick h now
  | send payload => exact clean_send h payload now
  | initComplete => exact clean_initComplete h
  | close => exact clean_close h
  | socketFailed message => exact clean_terminate h _

theorem inside_initial (config : SessionConfig) (helloId : UInt16) : Inside (initial config helloId) where
  nextLocalId := (by decide : (1 : PacketId) < PacketId.space)
  nextRemoteId := (by decide : (1 : PacketId) < PacketId.space)
  inFlight _ hp := (List.not_mem_nil hp).elim
  held _ _ hg := nomatch hg

/-- **A history.** Nothing fails on the way, and the session stays inside. -/
theorem clean_run (h : Inside m) (events : List (SessionEvent × Instant)) : Clean (m.run? events) (m.run events) := by
  induction events using List.reverseRecOn with
  | nil => exact .still h
  | append_singleton events e ih =>
    rw [run?, run, List.foldl_concat, List.foldl_concat]
    exact ih.next fun _ hm => clean_step hm e

/-- **No history makes a session fail.** From the start on, whatever happens and in whatever order, the ids that a session
has are in the id space, so that the sums made of them fit sixteen bits; the session that comes to a halt where a sum or a
packet of its own fails does exactly what the session does; and every datagram that is ever queued can be read. -/
theorem never_fails (config : SessionConfig) (helloId : UInt16) (events : List (SessionEvent × Instant)) :
    let s := (initial config helloId).run events
    (s.1.nextLocalId < PacketId.space ∧ s.1.nextRemoteId < PacketId.space ∧
        (∀ p ∈ s.1.inFlight, p.id < PacketId.space) ∧ ∀ id ∈ s.1.reorder.keys, id < PacketId.space) ∧
      (s.1.nextLocalId.toNat + 1 < UInt16.size ∧ s.1.nextRemoteId.toNat + 1 < UInt16.size ∧
        s.1.nextRemoteId.toNat + PacketId.space.toNat < UInt16.size) ∧
      (initial config helloId).run? events = some s ∧ ∀ d, .transmit d ∈ s.2 → ∃ p, Packet.decode d = .ok p := by
  intro s
  obtain ⟨hagrees, hinside, hread⟩ := clean_run (inside_initial config helloId) events
  have hlocal := (PacketId.lt_space_iff s.1.nextLocalId).1 hinside.nextLocalId
  have hremote := (PacketId.lt_space_iff s.1.nextRemoteId).1 hinside.nextRemoteId
  refine ⟨⟨hinside.nextLocalId, hinside.nextRemoteId, fun p hp => (hinside.inFlight p hp).1, fun id hid => ?_⟩, ?_,
    hagrees, hread⟩
  · obtain ⟨payload, hg⟩ := IdMap.mem_keys.1 hid
    exact hinside.held id payload hg
  · rw [PacketId.toNat_space, UInt16.size]
    omega

end Session

end VisionMixer
