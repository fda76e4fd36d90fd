/-
What a session does when no data packet arrives.

`Quiet` says that a step leaves the sequence of received packets alone: nothing is delivered, the next expected id and
the configuration stay, and nothing new is held back. Every handler but `sequence` is quiet (`quiet_tick`,
`quiet_send`, …). `Unanswering` says that no datagram of a list of actions acknowledges packets or asks for them again;
all that a session sends on its own account is of that kind, provided the packets in flight are (`SendsData`).
-/
import Mathlib.Tactic
import VisionMixer.Proofs.Packet.Framing
import VisionMixer.Proofs.Session.Run

namespace VisionMixer.Session

/-- a step that leaves the received packets alone -/
structure Quiet (m : Session) (s : Step) : Prop where
  config : s.1.config = m.config
  next : s.1.nextRemoteId = m.nextRemoteId
  held : ∀ id payload, s.1.reorder.get? id = some payload → m.reorder.get? id = some payload
  silent : deliveries s.2 = []

theorem Quiet.still (m : Session) : Quiet m m.still := ⟨rfl, rfl, fun _ _ h => h, rfl⟩

theorem Quiet.then {m : Session} {s : Step} {f : Session → Step} (h : Quiet m s) (hf : Quiet s.1 (f s.1)) :
    Quiet m (s.next f) where
  config := hf.config.trans h.config
  next := hf.next.trans h.next
  held := fun id payload hg => h.held id payload (hf.held id payload hg)
  silent := by simp only [Step.next, deliveries_append, h.silent, hf.silent, List.append_nil]

theorem Quiet.when {m : Session} {s : Step} (h : Quiet m s) (c : Prop) [Decidable c] :
    Quiet m (if c then s else m.still) := by
  split
  · exact h
  · exact .still m

/-- every packet in flight carries data and nothing else -/
def SendsData (m : Session) : Prop := ∀ p ∈ m.inFlight, p.packet.header.flags = .ackRequest

theorem SendsData.when {m : Session} {s : Step} (h : SendsData m) (hs : SendsData s.1) (c : Prop) [Decidable c] :
    SendsData (if c then s else m.still).1 := by
  split
  · exact hs
  · exact h

/-- actions that neither acknowledge packets nor ask for them again -/
def Unanswering (actions : List SessionAction) : Prop :=
  ∀ d p, .transmit d ∈ actions → Packet.decode d = .ok p →
    p.header.flags.contains .ackReply = false ∧ p.header.flags.contains .retransmitRequest = false

theorem Unanswering.nil : Unanswering [] := by
  intro d p h
  cases h

theorem Unanswering.append {a b : List SessionAction} (ha : Unanswering a) (hb : Unanswering b) :
    Unanswering (a ++ b) := by
  intro d p h
  rcases List.mem_append.1 h with h | h
  · exact ha d p h
  · exact hb d p h

theorem Unanswering.when {m : Session} {s : Step} (h : Unanswering s.2) (c : Prop) [Decidable c] :
    Unanswering (if c then s else m.still).2 := by
  split
  · exact h
  · exact .nil

/-- actions without any datagram -/
theorem Unanswering.of_no_transmit {actions : List SessionAction} (h : ∀ d, .transmit d ∉ actions) :
    Unanswering actions := fun d _ hd => absurd hd (h d)

theorem transmit_mem_sending {p : Packet} {d : Bytes} (h : .transmit d ∈ sending p) : p.encode = .ok d := by
  unfold sending at h
  split at h
  · rename_i d' hd
    simp only [List.mem_singleton, SessionAction.transmit.injEq] at h
    rw [hd, h]
  · cases h

theorem deliveries_sending (p : Packet) : deliveries (sending p) = [] := by
  unfold sending
  split <;> rfl

theorem deliveries_sendingAll (packets : List Packet) : deliveries (sendingAll packets) = [] := by
  induction packets with
  | nil => rfl
  | cons p packets ih =>
    rw [sendingAll, List.flatMap_cons, deliveries_append, deliveries_sending]
    exact ih

/-- a datagram that a session sends, read back -/
theorem decode_of_mem_sending {p q : Packet} {d : Bytes} (h : .transmit d ∈ sending p) (hq : Packet.decode d = .ok q) :
    q.header.flags = ⟨p.header.flags.bits &&& 0x1F⟩ ∧ q.header.ackId = p.header.ackId ∧
      q.header.resendFrom = p.header.resendFrom := by
  rw [Packet.decode_encode (transmit_mem_sending h)] at hq
  split at hq
  · cases hq
  · cases hq
    exact ⟨rfl, rfl, rfl⟩

theorem unanswering_sending {p : Packet} (f : PacketFlags) (hf : p.header.flags = f)
    (ha : PacketFlags.contains ⟨f.bits &&& 0x1F⟩ .ackReply = false)
    (hr : PacketFlags.contains ⟨f.bits &&& 0x1F⟩ .retransmitRequest = false) : Unanswering (sending p) := by
  intro d q hd hq
  obtain ⟨hflags, -, -⟩ := decode_of_mem_sending hd hq
  rw [hflags, hf]
  exact ⟨ha, hr⟩

theorem unanswering_hello (id : UInt16) (code : ConnectCode) : Unanswering (sending (.hello id code)) :=
  unanswering_sending .hello rfl (by decide) (by decide)

/-- packets with data, sent once more -/
theorem unanswering_resent {packets : List InFlight} (h : ∀ p ∈ packets, p.packet.header.flags = .ackRequest) :
    Unanswering (sendingAll (packets.map (·.packet.resent))) := by
  intro d q hd hq
  simp only [sendingAll, List.mem_flatMap, List.mem_map] at hd
  obtain ⟨_, ⟨p, hp, rfl⟩, hd⟩ := hd
  have hflags : p.packet.resent.header.flags = PacketFlags.ackRequest.union .retransmit := by
    rw [← h p hp]
    rfl
  exact unanswering_sending _ hflags (by decide) (by decide) d q hd hq

/-! ### The end of a session -/

theorem quiet_terminate (m : Session) (reason : EndReason) : Quiet m (m.terminate reason) := by
  unfold terminate
  split
  · exact .still m
  · refine ⟨rfl, rfl, fun id payload h => ?_, ?_⟩
    · cases h
    · simp [deliveries, List.filterMap_map]

theorem unanswering_terminate (m : Session) (reason : EndReason) : Unanswering (m.terminate reason).2 := by
  refine .of_no_transmit fun d h => ?_
  unfold terminate at h
  split at h
  · cases h
  · simp at h

theorem sendsData_terminate {m : Session} (h : SendsData m) (reason : EndReason) : SendsData (m.terminate reason).1 := by
  unfold terminate
  split
  · exact h
  · intro p hp
    cases hp

theorem quiet_close (m : Session) : Quiet m m.close := by
  unfold close
  split
  · exact .still m
  · refine Quiet.then ⟨rfl, rfl, fun _ _ h => h, ?_⟩ (quiet_terminate m .closed)
    dsimp only
    split
    · exact deliveries_sending _
    · rfl

theorem unanswering_close (m : Session) : Unanswering m.close.2 := by
  unfold close
  split
  · exact .nil
  · refine .append ?_ (unanswering_terminate m .closed)
    dsimp only
    split
    · exact unanswering_hello _ _
    · exact .nil

theorem sendsData_close {m : Session} (h : SendsData m) : SendsData m.close.1 := by
  unfold close
  split
  · exact h
  · exact sendsData_terminate h .closed

/-! ### Time -/

theorem quiet_sayHello (m : Session) (now : Instant) : Quiet m (m.sayHello now) :=
  ⟨rfl, rfl, fun _ _ h => h, deliveries_sending (.hello m.helloId .request)⟩

theorem quiet_resendDue (m : Session) (now : Instant) : Quiet m (m.resendDue now) :=
  ⟨rfl, rfl, fun _ _ h => h, deliveries_sendingAll _⟩

theorem unanswering_resendDue {m : Session} (h : SendsData m) (now : Instant) : Unanswering (m.resendDue now).2 :=
  unanswering_resent fun p hp => h p (List.mem_filter.1 hp).1

theorem sendsData_resendDue {m : Session} (h : SendsData m) (now : Instant) : SendsData (m.resendDue now).1 := by
  intro p hp
  obtain ⟨q, hq, rfl⟩ := List.mem_map.1 hp
  have := h q hq
  dsimp only
  split <;> exact this

/-- the first half of a tick: hello is said again when it is due -/
def greetAgain (m : Session) (now : Instant) : Step := if isDue now m.helloDeadline then m.sayHello now else m.still

/-- the second half of a tick: silence and packets without attempts left end the session, others are sent again -/
def catchUp (m : Session) (now : Instant) : Step :=
  if isDue now m.keepaliveDeadline then m.terminate .keepaliveTimeout
  else if m.isExhausted now then m.terminate .retransmitExhausted
  else m.resendDue now

theorem tick_eq (m : Session) (now : Instant) :
    m.tick now =
      if m.phase.isTerminal then m.still
      else if isDue now m.handshakeDeadline then m.terminate .handshakeTimeout
      else (m.greetAgain now).next fun m => m.catchUp now := rfl

theorem quiet_greetAgain (m : Session) (now : Instant) : Quiet m (m.greetAgain now) :=
  (quiet_sayHello m now).when _

theorem unanswering_greetAgain (m : Session) (now : Instant) : Unanswering (m.greetAgain now).2 :=
  (unanswering_hello m.helloId .request).when (s := m.sayHello now) _

theorem sendsData_greetAgain {m : Session} (h : SendsData m) (now : Instant) : SendsData (m.greetAgain now).1 :=
  h.when (s := m.sayHello now) h _

theorem quiet_catchUp (m : Session) (now : Instant) : Quiet m (m.catchUp now) := by
  unfold catchUp
  split_ifs
  · exact quiet_terminate m _
  · exact quiet_terminate m _
  · exact quiet_resendDue m now

theorem unanswering_catchUp {m : Session} (h : SendsData m) (now : Instant) : Unanswering (m.catchUp now).2 := by
  unfold catchUp
  split_ifs
  · exact unanswering_terminate m _
  · exact unanswering_terminate m _
  · exact unanswering_resendDue h now

theorem sendsData_catchUp {m : Session} (h : SendsData m) (now : Instant) : SendsData (m.catchUp now).1 := by
  unfold catchUp
  split_ifs
  · exact sendsData_terminate h _
  · exact sendsData_terminate h _
  · exact sendsData_resendDue h now

theorem quiet_tick (m : Session) (now : Instant) : Quiet m (m.tick now) := by
  rw [tick_eq]
  split_ifs
  · exact .still m
  · exact quiet_terminate m _
  · exact (quiet_greetAgain m now).then (quiet_catchUp _ now)

theorem unanswering_tick {m : Session} (h : SendsData m) (now : Instant) : Unanswering (m.tick now).2 := by
  rw [tick_eq]
  split_ifs
  · exact .nil
  · exact unanswering_terminate m _
  · exact (unanswering_greetAgain m now).append (unanswering_catchUp (sendsData_greetAgain h now) now)

theorem sendsData_tick {m : Session} (h : SendsData m) (now : Instant) : SendsData (m.tick now).1 := by
  rw [tick_eq]
  split_ifs
  · exact h
  · exact sendsData_terminate h _
  · exact sendsData_catchUp (sendsData_greetAgain h now) now

/-! ### Requests of the owner -/

theorem quiet_initComplete (m : Session) : Quiet m m.initComplete := by
  unfold initComplete enter
  split_ifs
  · exact .still m
  · exact ⟨rfl, rfl, fun _ _ h => h, rfl⟩
  · exact .still m

theorem unanswering_initComplete (m : Session) : Unanswering m.initComplete.2 := by
  refine .of_no_transmit fun d h => ?_
  unfold initComplete enter at h
  split_ifs at h
  · cases h
  · simp at h
  · cases h

theorem sendsData_initComplete {m : Session} (h : SendsData m) : SendsData m.initComplete.1 := by
  unfold initComplete enter
  split_ifs <;> exact h

/-- a first connect request says hello -/
theorem connect_eq {m : Session} {now : Instant} {r : Reaction} (h : m.connect now = .ok r) :
    r = reacting ({ m with startedAt := some now }.sayHello now) := by
  unfold connect at h
  split at h <;> cases h
  rfl

/-- an accepted send puts one packet of data on the wire and in flight -/
theorem send_eq {m : Session} {payload : Bytes} {now : Instant} {r : Reaction} (h : m.send payload now = .ok r) :
    ∃ sessionId datagram, m.phase = .live ∧ m.sessionId = some sessionId ∧
      (Packet.data sessionId m.nextLocalId payload).encode = .ok datagram ∧
      r = ⟨{ m with
          nextLocalId := PacketId.next m.nextLocalId
          inFlight := m.inFlight ++ [⟨m.nextLocalId, .data sessionId m.nextLocalId payload, now, 0⟩] },
        [.transmit datagram], some m.nextLocalId⟩ := by
  unfold send at h
  split_ifs at h with ht hl
  split at h
  · cases h
  · rename_i sessionId hs
    dsimp only at h
    cases he : (Packet.data sessionId m.nextLocalId payload).encode with
    | error e => rw [he] at h; cases h
    | ok datagram =>
      rw [he] at h
      cases h
      exact ⟨sessionId, datagram, by simpa using hl, hs, he, rfl⟩

theorem quiet_connect {m : Session} {now : Instant} {r : Reaction} (h : m.connect now = .ok r) :
    Quiet m (r.session, r.actions) := by
  rw [connect_eq h]
  exact ⟨rfl, rfl, fun _ _ h => h, deliveries_sending (.hello m.helloId .request)⟩

theorem unanswering_connect {m : Session} {now : Instant} {r : Reaction} (h : m.connect now = .ok r) :
    Unanswering r.actions := by
  rw [connect_eq h]
  exact unanswering_hello m.helloId .request

theorem sendsData_connect {m : Session} {now : Instant} {r : Reaction} (h : m.connect now = .ok r) (hm : SendsData m) :
    SendsData r.session := by
  rw [connect_eq h]
  exact hm

theorem quiet_send {m : Session} {payload : Bytes} {now : Instant} {r : Reaction} (h : m.send payload now = .ok r) :
    Quiet m (r.session, r.actions) := by
  obtain ⟨sessionId, datagram, -, -, -, rfl⟩ := send_eq h
  exact ⟨rfl, rfl, fun _ _ h => h, rfl⟩

theorem unanswering_send {m : Session} {payload : Bytes} {now : Instant} {r : Reaction}
    (h : m.send payload now = .ok r) : Unanswering r.actions := by
  obtain ⟨sessionId, datagram, -, -, hd, rfl⟩ := send_eq h
  have hs : sending (.data sessionId m.nextLocalId payload) = [.transmit datagram] := by rw [sending, hd]
  show Unanswering [.transmit datagram]
  rw [← hs]
  exact unanswering_sending .ackRequest rfl (by decide) (by decide)

theorem sendsData_send {m : Session} {payload : Bytes} {now : Instant} {r : Reaction}
    (h : m.send payload now = .ok r) (hm : SendsData m) : SendsData r.session := by
  obtain ⟨sessionId, datagram, -, -, -, rfl⟩ := send_eq h
  intro p hp
  rcases List.mem_append.1 hp with hp | hp
  · exact hm p hp
  · rw [List.mem_singleton.1 hp]
    rfl

/-! ### Datagrams that carry no data -/

theorem quiet_receiveHello (m : Session) (p : Packet) (now : Instant) : Quiet m (m.receiveHello p now) := by
  unfold receiveHello
  split
  · refine ⟨rfl, rfl, fun _ _ h => h, ?_⟩
    rw [deliveries_append, deliveries_sending]
    rfl
  · exact ⟨rfl, rfl, fun _ _ h => h, deliveries_sending (.ack p.header.sessionId 0)⟩
  · exact quiet_terminate m _
  · exact quiet_terminate m _
  · exact .still m

theorem sendsData_receiveHello {m : Session} (h : SendsData m) (p : Packet) (now : Instant) :
    SendsData (m.receiveHello p now).1 := by
  unfold receiveHello
  split
  · exact h
  · exact h
  · exact sendsData_terminate h _
  · exact sendsData_terminate h _
  · exact h

/-- the first part of a data datagram: what it says about the packets of this side -/
def heed (m : Session) (p : Packet) (now : Instant) : Step :=
  (if p.header.flags.contains .ackReply then m.acknowledge p.header.ackId else m.still).next fun m =>
    if p.header.flags.contains .retransmitRequest then m.resendFrom p.header.resendFrom now else m.still

theorem receiveData_eq (m : Session) (p : Packet) (now : Instant) :
    m.receiveData p now =
      (heed { m with lastReceived := some now } p now).next fun m =>
        if p.header.flags.contains .ackRequest then m.sequence p.header.packetId p.payload else m.still := rfl

theorem quiet_acknowledge (m : Session) (id : PacketId) : Quiet m (m.acknowledge id) := by
  refine ⟨rfl, rfl, fun _ _ h => h, ?_⟩
  simp [acknowledge, deliveries, List.filterMap_map]

theorem quiet_resendFrom (m : Session) (id : PacketId) (now : Instant) : Quiet m (m.resendFrom id now) :=
  ⟨rfl, rfl, fun _ _ h => h, deliveries_sendingAll _⟩

theorem quiet_heed (m : Session) (p : Packet) (now : Instant) : Quiet m (m.heed p now) :=
  ((quiet_acknowledge m _).when _).then ((quiet_resendFrom _ _ now).when _)

theorem sendsData_acknowledge {m : Session} (h : SendsData m) (id : PacketId) : SendsData (m.acknowledge id).1 :=
  fun p hp => h p ((List.dropWhile_sublist _).subset hp)

theorem sendsData_resendFrom {m : Session} (h : SendsData m) (id : PacketId) (now : Instant) :
    SendsData (m.resendFrom id now).1 := by
  intro p hp
  obtain ⟨q, hq, rfl⟩ := List.mem_map.1 hp
  have := h q hq
  dsimp only
  split <;> exact this

theorem unanswering_acknowledge (m : Session) (id : PacketId) : Unanswering (m.acknowledge id).2 := by
  refine .of_no_transmit fun d hd => ?_
  simp [acknowledge] at hd

theorem unanswering_resendFrom {m : Session} (h : SendsData m) (id : PacketId) (now : Instant) :
    Unanswering (m.resendFrom id now).2 :=
  unanswering_resent fun p hp => h p (List.mem_filter.1 hp).1

theorem unanswering_heed {m : Session} (h : SendsData m) (p : Packet) (now : Instant) :
    Unanswering (m.heed p now).2 :=
  ((unanswering_acknowledge m _).when _).append
    ((unanswering_resendFrom (h.when (sendsData_acknowledge h _) _) _ now).when _)

theorem sendsData_heed {m : Session} (h : SendsData m) (p : Packet) (now : Instant) : SendsData (m.heed p now).1 :=
  have hm := h.when (sendsData_acknowledge h p.header.ackId) (p.header.flags.contains .ackReply)
  hm.when (sendsData_resendFrom hm p.header.resendFrom now) _

/-- the session that takes a datagram for one of its own differs in the session id at most -/
theorem recognize_eq {m m' : Session} {h : Header} (hr : m.recognize? h = some m') :
    m' = { m with sessionId := some h.sessionId } := by
  unfold recognize? at hr
  split at hr
  · rename_i id hid
    split_ifs at hr with heq
    cases hr
    rw [heq, ← hid]
  · split_ifs at hr
    cases hr
    rfl

end VisionMixer.Session
