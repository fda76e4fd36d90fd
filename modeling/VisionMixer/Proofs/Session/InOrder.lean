/-
Arrival in order: the plain case of a device that is heard without any loss.

`inOrder` is the history in which a session is accepted and the packets 1, …, `count` of a device arrive one after
another. `scheduled_inOrder`: it is a schedule like any other and takes the session to packet `count` + 1. `Smooth` is
its invariant: nothing is ever held back.
-/
import VisionMixer.Proofs.Session.Delivery

namespace VisionMixer.Session

open PacketId (wrap)

/-- packets of a device, one after another -/
def arrivals (sessionId : UInt16) (P : Nat → Bytes) (now : Instant) (numbers : List Nat) :
    List (SessionEvent × Instant) :=
  numbers.map fun n => (.datagram (wire (.data sessionId (wrap n) (P n))), now)

/-- a session accepted at once, and the packets 1, …, `count` of its device in order -/
def inOrder (sessionId : UInt16) (P : Nat → Bytes) (now : Instant) (count : Nat) : List (SessionEvent × Instant) :=
  (.connect, now) :: (.datagram (wire (.hello sessionId .accepted)), now) ::
    arrivals sessionId P now (List.range' 1 count)

/-- a packet without acknowledgements is read as it was, with its length filled in -/
theorem decode_wire {p : Packet} (n : Nat) (f : PacketFlags) (h : Fits p.payload)
    (hp : p.header = { flags := f, sessionId := p.header.sessionId, packetId := wrap n })
    (hf : f.bits &&& 0x1F = f.bits) :
    Packet.decode (wire p) =
      .ok { p with header := { p.header with length := UInt16.ofNat (Header.size + p.payload.length) } } := by
  have hencode : p.encode = .ok (wire p) := by
    unfold wire Packet.encode
    rw [if_neg (Nat.not_lt.2 h)]
    rfl
  have hid : ¬(PacketId.space ≤ p.header.packetId ∨ PacketId.space ≤ p.header.ackId ∨
      PacketId.space ≤ p.header.resendFrom) := by
    rw [hp]
    exact not_or.2 ⟨PacketId.wrap_inside n, not_or.2 ⟨PacketId.wrap_inside 0, PacketId.wrap_inside 0⟩⟩
  have hflags : (⟨p.header.flags.bits &&& 0x1F⟩ : PacketFlags) = p.header.flags := by
    rw [hp]
    exact congrArg PacketFlags.mk hf
  rw [Packet.decode_encode hencode, if_neg hid, hflags]

/-- an accepted session that has missed nothing before packet `E` -/
structure Smooth (sessionId : UInt16) (E : Nat) (m : Session) : Prop where
  phase : m.phase = .handshaking
  own : m.sessionId = none ∨ m.sessionId = some sessionId
  next : m.nextRemoteId = wrap E
  empty : m.reorder = ∅

/-- the packet whose turn it is, when nothing is held back -/
theorem smooth_step {sessionId : UInt16} {P : Nat → Bytes} {E : Nat} {m : Session} (h : Smooth sessionId E m)
    (hE : 0 < E) (hfit : Fits (P E)) (now : Instant) {e : SessionEvent × Instant}
    (he : e = (.datagram (wire (.data sessionId (wrap E) (P E))), now)) :
    Admits P E m e.1 ∧ m.advance e = 1 ∧ Smooth sessionId (E + 1) (m.step e).1 := by
  obtain ⟨p, hp, hflags, hsession, hid, hpayload⟩ : ∃ p,
      Packet.decode (wire (.data sessionId (wrap E) (P E))) = .ok p ∧ p.header.flags = .ackRequest ∧
        p.header.sessionId = sessionId ∧ p.header.packetId = wrap E ∧ p.payload = P E :=
    ⟨_, decode_wire (p := .data sessionId (wrap E) (P E)) E .ackRequest hfit rfl (by decide), rfl, rfl, rfl, rfl⟩
  have hown : ∃ m', m.recognize? p.header = some m' := by
    unfold recognize?
    rcases h.own with hs | hs
    · exact ⟨_, by rw [hs]; exact if_pos h.phase⟩
    · exact ⟨m, by rw [hs]; exact if_pos hsession⟩
  have hb : Brings m e.1 p :=
    ⟨⟨_, by rw [he], hp⟩, by rw [h.phase]; rfl, by rw [hflags]; rfl, hown, by rw [hflags]; rfl⟩
  have hheed : (m.note p e.2).heed p e.2 = (m.note p e.2).still := by
    unfold heed
    rw [hflags]
    rfl
  have hnext : (m.note p e.2).nextRemoteId = wrap E := h.next
  have hempty : (m.note p e.2).reorder = ∅ := h.empty
  have hstep : (m.step e).1 = { m.note p e.2 with nextRemoteId := wrap (E + 1) } := by
    rw [step_of_brings hb, hheed, hid, hpayload]
    simp only [Step.next, still, sequence, hnext, if_true, take, PacketId.next_wrap, hempty]
    rfl
  refine ⟨?_, ?_, ?_⟩
  · rw [he]
    exact admits_of_decode hp ⟨hE, hid, hpayload⟩ (by omega) (by omega)
  · rw [advance, hstep, h.next, PacketId.distance_wrap (by omega) (by omega)]
    omega
  · rw [hstep]
    exact ⟨h.phase, .inr (congrArg some hsession), rfl, h.empty⟩

theorem scheduled_arrivals {sessionId : UInt16} {P : Nat → Bytes} {count : Nat} {E : Nat} {m : Session}
    (h : Smooth sessionId E m) (hE : 0 < E) (hfit : ∀ n, E ≤ n → n < E + count → Fits (P n)) (now : Instant) :
    Scheduled P E m (arrivals sessionId P now (List.range' E count)) ∧
      expected E m (arrivals sessionId P now (List.range' E count)) = E + count := by
  induction count generalizing E m with
  | zero => exact ⟨trivial, rfl⟩
  | succ count ih =>
    obtain ⟨ha, hone, hsmooth⟩ := smooth_step h hE (hfit E (le_refl E) (by omega)) now rfl
    obtain ⟨hs, he⟩ := ih hsmooth (by omega) fun n h1 h2 => hfit n (by omega) (by omega)
    rw [List.range'_succ, arrivals, List.map_cons, Scheduled, expected, hone]
    exact ⟨⟨ha, hs⟩, by rw [← arrivals, he]; omega⟩

/-- the packets that fit into datagrams can arrive in order -/
theorem scheduled_inOrder (config : SessionConfig) (helloId sessionId : UInt16) {P : Nat → Bytes} {count : Nat}
    (hfit : ∀ n, 1 ≤ n → n ≤ count → Fits (P n)) (now : Instant) :
    Scheduled P 1 (initial config helloId) (inOrder sessionId P now count) ∧
      expected 1 (initial config helloId) (inOrder sessionId P now count) = count + 1 := by
  set m := ((initial config helloId).step (.connect, now)).1 with hm
  set hello : SessionEvent × Instant := (.datagram (wire (.hello sessionId .accepted)), now) with hhello
  have hfits : Fits (ConnectCode.accepted.byte :: Bytes.zeros 7) := by
    unfold Fits
    decide
  obtain ⟨p, hp, hflags, hpayload⟩ : ∃ p, Packet.decode (wire (.hello sessionId .accepted)) = .ok p ∧
      p.header.flags = .hello ∧ p.payload = ConnectCode.accepted.byte :: Bytes.zeros 7 :=
    ⟨_, decode_wire (p := .hello sessionId .accepted) 0 .hello hfits rfl (by decide), rfl, rfl⟩
  have hf : p.header.flags.contains .hello = true := by
    rw [hflags]
    rfl
  have hcode : p.connectCode? = some .accepted := by
    rw [Packet.connectCode?, if_pos hf, hpayload]
    rfl
  have hsmooth : Smooth sessionId 1 (m.step hello).1 := by
    have hs : m.step hello = m.receiveHello p now := by
      simp only [step, handle, reacting, receive, hhello, hp, hf]
      rfl
    rw [hs, receiveHello, hcode]
    exact ⟨rfl, .inl rfl, rfl, rfl⟩
  have hadmits : Admits P 1 m hello.1 :=
    admits_of_not_brings (hello_step (e := hello) (fun q hq => by cases hq) ⟨_, p, rfl, hp, hf⟩).2.2
  have hconnect : Admits P 1 (initial config helloId) .connect := by
    refine admits_of_not_brings fun q hq => ?_
    obtain ⟨_, h, -⟩ := hq.arrives
    cases h
  have hzero : m.advance hello = 0 := advance_of_same hsmooth.next
  have hfirst : (initial config helloId).advance (.connect, now) = 0 := advance_of_same rfl
  have hfit' : ∀ n, 1 ≤ n → n < 1 + count → Fits (P n) := fun n h1 h2 => hfit n h1 (by omega)
  obtain ⟨hs, he⟩ := scheduled_arrivals hsmooth Nat.one_pos hfit' now
  simp only [inOrder, Scheduled, expected, ← hm, ← hhello, hfirst, hzero, Nat.add_zero]
  exact ⟨⟨hconnect, hadmits, hs⟩, by rw [he, Nat.add_comm]⟩

end VisionMixer.Session
