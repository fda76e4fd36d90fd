/-
Delivery in sequence over a whole history: the records of a device arrive in order and each once, whatever the network
does to its packets.

`expected` is the absolute number of the packet that a session waits for; it follows the session's own wrapping counter.
`Scheduled` is the one thing asked of the network: each data packet that arrives is at most half the id space away from
the number expected at that moment. `step_spec` is the step of any event and `run_spec` the induction over a history.

`delivers_in_order`: after every event the record lists delivered are those of the packets 1, …, `E` - 1, packet `E` is
not held back, every acknowledgement is of `E` - 1 and every request to resend starts with `E`.
-/
import VisionMixer.Proofs.Session.Sequence

namespace VisionMixer.Session

open PacketId (wrap)

/-- packet `n` of a device that sends `P` -/
structure IsPacket (P : Nat → Bytes) (n : Nat) (p : Packet) : Prop where
  positive : 0 < n
  id : p.header.packetId = wrap n
  payload : p.payload = P n

/-- an event that is a packet of the hello exchange -/
def IsHello (e : SessionEvent) : Prop :=
  ∃ bytes p, e = .datagram bytes ∧ Packet.decode bytes = .ok p ∧ p.header.flags.contains .hello = true

/-- an event that brings a session a packet of data of its own -/
structure Brings (m : Session) (e : SessionEvent) (p : Packet) : Prop where
  arrives : ∃ bytes, e = .datagram bytes ∧ Packet.decode bytes = .ok p
  lasting : m.phase.isTerminal = false
  plain : p.header.flags.contains .hello = false
  own : ∃ m', m.recognize? p.header = some m'
  data : p.header.flags.contains .ackRequest = true

/-- what an event brings is a packet of the device, at most half the id space away from `E` -/
def Admits (P : Nat → Bytes) (E : Nat) (m : Session) (e : SessionEvent) : Prop :=
  ∀ p, Brings m e p → ∃ n, IsPacket P n p ∧ E ≤ n + 0x4000 ∧ n ≤ E + 0x4000

/-- by how many packets an event takes a session on -/
def advance (m : Session) (e : SessionEvent × Instant) : Nat :=
  (PacketId.distance m.nextRemoteId (m.step e).1.nextRemoteId).toNat

theorem advance_of_same {m : Session} {e : SessionEvent × Instant}
    (h : (m.step e).1.nextRemoteId = m.nextRemoteId) : m.advance e = 0 := by
  rw [advance, h, PacketId.toNat_distance]
  have := m.nextRemoteId.toNat_lt
  omega

/-- the number of the packet that is expected after a history, `E` before it -/
def expected (E : Nat) (m : Session) : List (SessionEvent × Instant) → Nat
  | [] => E
  | e :: events => expected (E + m.advance e) (m.step e).1 events

/-- every arrival of a history lies near the number expected at that moment -/
def Scheduled (P : Nat → Bytes) (E : Nat) (m : Session) : List (SessionEvent × Instant) → Prop
  | [] => True
  | e :: events => Admits P E m e.1 ∧ Scheduled P (E + m.advance e) (m.step e).1 events

theorem expected_append (E : Nat) (m : Session) (before after : List (SessionEvent × Instant)) :
    expected E m (before ++ after) = expected (expected E m before) (m.run before).1 after := by
  induction before generalizing E m with
  | nil => rfl
  | cons e before ih =>
    rw [List.cons_append, expected, ih, run_cons]
    rfl

theorem expected_concat (E : Nat) (m : Session) (events : List (SessionEvent × Instant)) (e : SessionEvent × Instant) :
    expected E m (events ++ [e]) = expected E m events + (m.run events).1.advance e := expected_append E m events [e]

theorem scheduled_append {P : Nat → Bytes} {E : Nat} {m : Session} {before after : List (SessionEvent × Instant)} :
    Scheduled P E m (before ++ after) ↔
      Scheduled P E m before ∧ Scheduled P (expected E m before) (m.run before).1 after := by
  induction before generalizing E m with
  | nil => simp [Scheduled, expected, run_nil, still]
  | cons e before ih =>
    rw [List.cons_append, Scheduled, ih, Scheduled, expected, run_cons, and_assoc]
    rfl

/-- a packet that is not of the session, or no packet of data at all -/
theorem admits_of_not_brings {P : Nat → Bytes} {E : Nat} {m : Session} {e : SessionEvent} (h : ∀ p, ¬Brings m e p) :
    Admits P E m e := fun p hp => absurd hp (h p)

theorem admits_of_decode {P : Nat → Bytes} {E n : Nat} {m : Session} {bytes : Bytes} {p : Packet}
    (hp : Packet.decode bytes = .ok p) (hn : IsPacket P n p) (hlo : E ≤ n + 0x4000) (hhi : n ≤ E + 0x4000) :
    Admits P E m (.datagram bytes) := by
  intro q hq
  obtain ⟨_, he, hd⟩ := hq.arrives
  cases he
  cases hp.symm.trans hd
  exact ⟨n, hn, hlo, hhi⟩

/-! ### Events without a packet of data -/

/-- a step that neither takes a packet of data nor answers one -/
structure Idle (m : Session) (s : Step) : Prop where
  quiet : Quiet m s
  data : SendsData s.1
  mute : Unanswering s.2

theorem idle_still {m : Session} (h : SendsData m) : Idle m m.still := ⟨.still m, h, .nil⟩

theorem idle_heed {m : Session} (h : SendsData m) (p : Packet) (now : Instant) : Idle m (m.heed p now) :=
  ⟨quiet_heed m p now, sendsData_heed h p now, unanswering_heed h p now⟩

theorem idle_receive {m : Session} (h : SendsData m) {bytes : Bytes} {now : Instant}
    (hb : ∀ p, ¬Brings m (.datagram bytes) p) (hh : ¬IsHello (.datagram bytes)) : Idle m (m.receive bytes now) := by
  unfold receive
  split
  · exact idle_still h
  · rename_i hphase
    split
    · exact idle_still h
    · rename_i p hp
      rw [if_neg fun hf => hh ⟨bytes, p, rfl, hp, hf⟩]
      split
      · exact idle_still h
      · rename_i m' hm'
        have hdata : ¬p.header.flags.contains .ackRequest = true := fun hd =>
          hb p ⟨⟨bytes, rfl, hp⟩, by simpa using hphase, by simpa using fun hf => hh ⟨bytes, p, rfl, hp, hf⟩,
            ⟨m', hm'⟩, hd⟩
        have heq : m'.receiveData p now = heed { m' with lastReceived := some now } p now := by
          rw [receiveData_eq]
          simp only [if_neg hdata]
          exact Step.next_still _
        rw [heq, recognize_eq hm']
        have hi := idle_heed (m := { m with sessionId := some p.header.sessionId, lastReceived := some now }) h p now
        exact ⟨⟨hi.quiet.config, hi.quiet.next, hi.quiet.held, hi.quiet.silent⟩, hi.data, hi.mute⟩

/-- an accepted event does what its reaction says, a refused one does nothing -/
theorem step_cases (m : Session) (e : SessionEvent × Instant) :
    (∃ r, m.handle e.1 e.2 = .ok r ∧ m.step e = (r.session, r.actions)) ∨ m.step e = m.still := by
  unfold step
  cases m.handle e.1 e.2 with
  | ok r => exact .inl ⟨r, rfl, rfl⟩
  | error e => exact .inr rfl

theorem idle_step {m : Session} (h : SendsData m) {e : SessionEvent × Instant} (hb : ∀ p, ¬Brings m e.1 p)
    (hh : ¬IsHello e.1) : Idle m (m.step e) := by
  obtain ⟨e, now⟩ := e
  rcases step_cases m (e, now) with ⟨r, hr, hs⟩ | hs
  · rw [hs]
    cases e with
    | connect => exact ⟨quiet_connect hr, sendsData_connect hr h, unanswering_connect hr⟩
    | datagram bytes =>
      cases hr
      exact idle_receive h hb hh
    | tick =>
      cases hr
      exact ⟨quiet_tick m now, sendsData_tick h now, unanswering_tick h now⟩
    | send payload => exact ⟨quiet_send hr, sendsData_send hr h, unanswering_send hr⟩
    | initComplete =>
      cases hr
      exact ⟨quiet_initComplete m, sendsData_initComplete h, unanswering_initComplete m⟩
    | close =>
      cases hr
      exact ⟨quiet_close m, sendsData_close h, unanswering_close m⟩
    | socketFailed message =>
      cases hr
      exact ⟨quiet_terminate m _, sendsData_terminate h _, unanswering_terminate m _⟩
  · rw [hs]
    exact idle_still h

/-- a packet of the hello exchange brings no data either, and its answer is of no packet -/
theorem hello_step {m : Session} (h : SendsData m) {e : SessionEvent × Instant} (hh : IsHello e.1) :
    Quiet m (m.step e) ∧ SendsData (m.step e).1 ∧ ∀ p, ¬Brings m e.1 p := by
  obtain ⟨e, now⟩ := e
  obtain ⟨bytes, p, rfl, hp, hf⟩ := hh
  have hs : m.step (.datagram bytes, now) = if m.phase.isTerminal then m.still else m.receiveHello p now := by
    simp only [step, handle, reacting, receive, hp, hf, if_true]
  have hnot : ∀ q, ¬Brings m (.datagram bytes) q := by
    intro q hq
    obtain ⟨_, he, hd⟩ := hq.arrives
    cases he
    cases hp.symm.trans hd
    exact absurd (hf.symm.trans hq.plain) (by simp)
  refine ⟨?_, ?_, hnot⟩
  · rw [hs]
    split
    · exact .still m
    · exact quiet_receiveHello m p now
  · rw [hs]
    split
    · exact h
    · exact sendsData_receiveHello h p now

/-! ### A packet of data -/

/-- the session that has taken note of a packet: it knows its own id and when the device was last heard -/
def note (m : Session) (p : Packet) (now : Instant) : Session :=
  { m with sessionId := some p.header.sessionId, lastReceived := some now }

theorem InSequence.note {P : Nat → Bytes} {E : Nat} {m : Session} (h : InSequence P E m) (p : Packet) (now : Instant) :
    InSequence P E (m.note p now) := ⟨h.window, h.positive, h.next, h.held, h.data⟩

theorem heed_sessionId (m : Session) (p : Packet) (now : Instant) : (m.heed p now).1.sessionId = m.sessionId := by
  unfold heed Step.next
  dsimp only
  split <;> split <;> rfl

theorem fits_of_decode {bytes : Bytes} {p : Packet} (h : Packet.decode bytes = .ok p) : Fits p.payload := by
  obtain ⟨hmin, hmax, hpayload⟩ := Packet.length_of_decode h
  unfold Fits
  rw [hpayload, List.length_drop]
  omega

/-- data of the session's own is heeded first and then put in sequence -/
theorem step_of_brings {m : Session} {e : SessionEvent × Instant} {p : Packet} (h : Brings m e.1 p) :
    m.step e = ((m.note p e.2).heed p e.2).next fun m => m.sequence p.header.packetId p.payload := by
  obtain ⟨e, now⟩ := e
  obtain ⟨⟨bytes, rfl, hp⟩, hphase, hhello, ⟨m', hm'⟩, hdata⟩ := h
  have hr : m.receive bytes now = m'.receiveData p now := by
    simp only [receive, hphase, hp, hhello, hm', Bool.false_eq_true, if_false]
  show (m.receive bytes now) = _
  rw [hr, receiveData_eq, recognize_eq hm']
  simp only [if_pos hdata]
  rfl

/-- an event after which packet `E'` is expected instead of `E` -/
structure Stepped (P : Nat → Bytes) (E E' : Nat) (m : Session) (e : SessionEvent × Instant) : Prop where
  inSequence : InSequence P E' (m.step e).1
  reached : E ≤ E' ∧ E' ≤ E + 0x4000
  taken : E < E' ↔ ∃ p, Brings m e.1 p ∧ p.header.packetId = wrap E
  fitted : ∀ k, E ≤ k → k < E' → Fits (P k)
  told : deliveries (m.step e).2 = stream P E E'
  answers : ¬IsHello e.1 → Answers E' (m.step e).2
  replied : ∀ p, Brings m e.1 p → ∃ front q d,
    IsReply p.header.sessionId E' q ∧ q.encode = .ok d ∧ (m.step e).2 = front ++ [.transmit d]

theorem IsReply.sending_eq {sessionId : UInt16} {E : Nat} {q : Packet} (h : IsReply sessionId E q) :
    ∃ d, q.encode = .ok d ∧ sending q = [.transmit d] := by
  rcases h with rfl | rfl
  · exact ⟨_, rfl, rfl⟩
  · exact ⟨_, rfl, rfl⟩

theorem stepped_of_brings {P : Nat → Bytes} {E : Nat} {m : Session} {e : SessionEvent × Instant} {p : Packet}
    (h : InSequence P E m) (hb : Brings m e.1 p) (ha : Admits P E m e.1) : ∃ E', Stepped P E E' m e := by
  obtain ⟨n, hn, hlo, hhi⟩ := ha p hb
  have hi := idle_heed (h.note p e.2).data p e.2
  have hseq : InSequence P E ((m.note p e.2).heed p e.2).1 := (h.note p e.2).quiet hi.quiet hi.data
  have hsid : ((m.note p e.2).heed p e.2).1.sessionId = some p.header.sessionId := heed_sessionId _ p e.2
  have hfit : Fits (P n) := by
    obtain ⟨bytes, -, hp⟩ := hb.arrives
    rw [← hn.payload]
    exact fits_of_decode hp
  obtain ⟨E', hE⟩ := sequence_spec hseq hfit hlo hhi
  rw [← hn.id, ← hn.payload] at hE
  have hstep := step_of_brings hb
  obtain ⟨front, q, hq, hfront, heq⟩ := hE.replied _ hsid
  have hactions : (m.step e).2 = (((m.note p e.2).heed p e.2).2 ++ front) ++ sending q := by
    rw [hstep, Step.next, heq, List.append_assoc]
  -- the numbers near `E` have ids of their own, so the id tells whether the turn of the packet has come
  have hturn : n = E ↔ p.header.packetId = wrap E := by
    rw [hn.id]
    refine ⟨fun h => by rw [h], fun h => ?_⟩
    have := PacketId.wrap_inj h
    omega
  have hmoved := hE.moved
  refine ⟨E', ⟨?_, ?_, ?_, hE.fitted, ?_, ?_, ?_⟩⟩
  · rw [hstep]
    exact hE.inSequence
  · split_ifs at hmoved <;> omega
  · constructor
    · intro hlt
      refine ⟨p, hb, hturn.1 ?_⟩
      by_contra hne
      rw [if_neg hne] at hmoved
      omega
    · rintro ⟨p', hb', hid⟩
      obtain ⟨bytes, he, hp⟩ := hb.arrives
      obtain ⟨bytes', he', hp'⟩ := hb'.arrives
      cases he.symm.trans he'
      cases hp.symm.trans hp'
      rw [if_pos (hturn.2 hid)] at hmoved
      exact hmoved.1
  · rw [hstep, Step.next, deliveries_append, hi.quiet.silent, hE.told]
    rfl
  · intro _
    rw [hactions]
    exact ((hi.mute.append (.of_no_transmit hfront)).answers E').append hq.answers
  · intro p' hb'
    obtain ⟨bytes, he, hp⟩ := hb.arrives
    obtain ⟨bytes', he', hp'⟩ := hb'.arrives
    cases he.symm.trans he'
    cases hp.symm.trans hp'
    obtain ⟨d, hd, hs⟩ := hq.sending_eq
    exact ⟨_, q, d, hq, hd, by rw [hactions, hs]⟩

theorem stepped_of_not_brings {P : Nat → Bytes} {E : Nat} {m : Session} {e : SessionEvent × Instant}
    (h : InSequence P E m) (hb : ∀ p, ¬Brings m e.1 p) : Stepped P E E m e := by
  have hquiet : Quiet m (m.step e) ∧ SendsData (m.step e).1 ∧ (¬IsHello e.1 → Unanswering (m.step e).2) := by
    by_cases hh : IsHello e.1
    · obtain ⟨hq, hd, -⟩ := hello_step h.data hh
      exact ⟨hq, hd, fun hn => absurd hh hn⟩
    · have hi := idle_step h.data hb hh
      exact ⟨hi.quiet, hi.data, fun _ => hi.mute⟩
  obtain ⟨hq, hd, hu⟩ := hquiet
  refine ⟨h.quiet hq hd, ⟨le_refl E, by omega⟩, ?_, fun k h1 h2 => absurd h2 (by omega), ?_,
    fun hn => (hu hn).answers E, fun p hp => absurd hp (hb p)⟩
  · exact ⟨fun hlt => absurd hlt (lt_irrefl E), fun ⟨p, hp, _⟩ => absurd hp (hb p)⟩
  · rw [hq.silent, stream_self]

/-- **An event.** What it brings may lie anywhere up to half the id space away from `E`; `advance` says how far the
session has come. -/
theorem step_spec {P : Nat → Bytes} {E : Nat} {m : Session} {e : SessionEvent × Instant} (h : InSequence P E m)
    (ha : Admits P E m e.1) : Stepped P E (E + m.advance e) m e := by
  have hs : ∃ E', Stepped P E E' m e := by
    by_cases hb : ∃ p, Brings m e.1 p
    · obtain ⟨p, hb⟩ := hb
      exact stepped_of_brings h hb ha
    · exact ⟨E, stepped_of_not_brings h fun p hp => hb ⟨p, hp⟩⟩
  obtain ⟨E', hs⟩ := hs
  obtain ⟨hlo, hhi⟩ := hs.reached
  have hadvance : m.advance e = E' - E := by
    rw [advance, h.next, hs.inSequence.next, PacketId.distance_wrap hlo (by omega)]
  rw [hadvance, Nat.add_sub_cancel' hlo]
  exact hs

/-- a history: the invariant holds at the number reached, and the packets before it have been delivered -/
theorem run_spec {P : Nat → Bytes} {E : Nat} {m : Session} {events : List (SessionEvent × Instant)}
    (h : InSequence P E m) (hs : Scheduled P E m events) :
    E ≤ expected E m events ∧ InSequence P (expected E m events) (m.run events).1 ∧
      (∀ k, E ≤ k → k < expected E m events → Fits (P k)) ∧
      deliveries (m.run events).2 = stream P E (expected E m events) := by
  induction events generalizing E m with
  | nil => exact ⟨le_refl E, h, fun k h1 h2 => absurd h2 (Nat.not_lt.2 h1), (stream_self P E).symm⟩
  | cons e events ih =>
    obtain ⟨ha, hs⟩ := hs
    have hstep := step_spec h ha
    obtain ⟨hle, hinv, hfit, htold⟩ := ih hstep.inSequence hs
    rw [run_cons, expected]
    refine ⟨by omega, hinv, fun k h1 h2 => ?_, ?_⟩
    · rcases Nat.lt_or_ge k (E + m.advance e) with hlt | hge
      · exact hstep.fitted k h1 hlt
      · exact hfit k hge h2
    · rw [Step.next, deliveries_append, hstep.told, htold, stream_append P (Nat.le_add_right E _) hle]

theorem window_of_validate {config : SessionConfig} (h : config.validate = .ok ()) : config.reorderWindow < 0x4000 := by
  unfold SessionConfig.validate at h
  split_ifs at h with _ _ _ hw
  omega

/-- **Each packet once and in order.** A session with usable settings hears from a device that sends `P`. After every
event the records delivered are those of the packets before the expected one, which is not held back and which is the
one to arrive when the session moves on. Each packet of data is answered, and all answers name the expected packet. -/
theorem delivers_in_order {config : SessionConfig} (hc : config.validate = .ok ()) (helloId : UInt16)
    {P : Nat → Bytes} {events : List (SessionEvent × Instant)} (hs : Scheduled P 1 (initial config helloId) events) :
    (∀ before after, events = before ++ after →
      let E := expected 1 (initial config helloId) before
      let s := (initial config helloId).run before
      deliveries s.2 = stream P 1 E ∧ s.1.nextRemoteId = wrap E ∧ s.1.reorder.get? (wrap E) = none) ∧
    ∀ before e after, events = before ++ e :: after →
      let E := expected 1 (initial config helloId) before
      let E' := expected 1 (initial config helloId) (before ++ [e])
      let m := ((initial config helloId).run before).1
      E ≤ E' ∧ (E < E' ↔ ∃ p, Brings m e.1 p ∧ p.header.packetId = wrap E) ∧
        (¬IsHello e.1 → Answers E' (m.step e).2) ∧
        ∀ p, Brings m e.1 p → ∃ front q d,
          IsReply p.header.sessionId E' q ∧ q.encode = .ok d ∧ (m.step e).2 = front ++ [.transmit d] := by
  have hinit := inSequence_initial P (window_of_validate hc) helloId
  constructor
  · rintro before after rfl
    obtain ⟨-, hinv, -, htold⟩ := run_spec hinit (scheduled_append.1 hs).1
    exact ⟨htold, hinv.next, hinv.not_held⟩
  · rintro before e after rfl
    obtain ⟨hbefore, ha, -⟩ := scheduled_append.1 hs
    obtain ⟨-, hinv, -, -⟩ := run_spec hinit hbefore
    have hstep := step_spec hinv ha
    dsimp only
    rw [expected_concat]
    exact ⟨hstep.reached.1, hstep.taken, hstep.answers, hstep.replied⟩

/-- the datagram of a packet that fits into one -/
def wire (p : Packet) : Bytes := p.encode.toOption.getD []

/-- a device that announces its version in the first packet and the end of the handshake in the second -/
def greeting : Nat → Bytes
  | 1 => [0, 12, 0, 0, 0x5F, 0x76, 0x65, 0x72, 0, 2, 0, 30]
  | 2 => [0, 12, 0, 0, 0x49, 0x6E, 0x43, 0x6D, 1, 0, 0, 0]
  | _ => []

/-- the second packet of the greeting overtakes the first, which then comes twice -/
def overtaken : List (SessionEvent × Instant) := [
  (.connect, 0), (.datagram (wire (.hello 5 .accepted)), 1), (.datagram (wire (.data 9 2 (greeting 2))), 2),
  (.datagram (wire (.data 9 1 (greeting 1))), 3), (.datagram (wire (.data 9 1 (greeting 1))), 4)]

theorem scheduled_overtaken : Scheduled greeting 1 (initial default 5) overtaken := by
  refine ⟨admits_of_not_brings ?_, admits_of_not_brings ?_, ?_, ?_, ?_, trivial⟩
  · rintro p ⟨⟨_, h, _⟩, _⟩
    cases h
  · rintro p ⟨⟨_, h, hp⟩, -, hf, -⟩
    cases h
    cases hp
    exact absurd hf (by decide)
  · exact admits_of_decode (n := 2) rfl ⟨by decide, rfl, rfl⟩ (by decide) (by decide)
  · exact admits_of_decode (n := 1) rfl ⟨by decide, rfl, rfl⟩ (by decide) (by decide)
  · exact admits_of_decode (n := 1) rfl ⟨by decide, rfl, rfl⟩ (by decide) (by decide)

theorem delivers_in_order_overtaken :
    expected 1 (initial default 5) overtaken = 3 ∧
      deliveries ((initial default 5).run overtaken).2 =
        [[⟨.ofChars '_' 'v' 'e' 'r', [0, 2, 0, 30]⟩], [⟨.ofChars 'I' 'n' 'C' 'm', [1, 0, 0, 0]⟩]] :=
  ⟨by decide, ((delivers_in_order rfl 5 scheduled_overtaken).1 overtaken [] rfl).1⟩

end VisionMixer.Session
