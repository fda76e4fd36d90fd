/-
The packets in flight over one event.

`post` is what an event does to the packets without an outcome: those that get theirs leave from the front, the event may
send the others again (`revise`), and one more may be sent. An attempt of the session's own, at a tick, is counted and
starts the clock of the packet anew; one that the device asks for starts the clock only. `inFlight_step` is the step lemma
that every statement on the packets in flight rests on.
-/
import VisionMixer.Proofs.Session.Foreign
import VisionMixer.Proofs.Session.Life
import VisionMixer.Proofs.Session.Outcome

namespace VisionMixer.Session

/-- the packet from which on a datagram of the session's own asks for packets again -/
def wanted? (m : Session) (bytes : Bytes) : Option PacketId :=
  match Packet.decode bytes with
  | .error _ => none
  | .ok p =>
    if p.header.flags.contains .hello then none
    else if (m.recognize? p.header).isSome && p.header.flags.contains .retransmitRequest then some p.header.resendFrom
    else none

/-- an event sends a packet again that is in flight: it is overdue at a tick, or asked for -/
def resends (m : Session) (e : SessionEvent × Instant) (p : InFlight) : Bool :=
  match e.1 with
  | .tick => m.resendDeadline p ≤ e.2
  | .datagram bytes => (m.wanted? bytes).any fun id => !PacketId.isBefore p.id id
  | _ => false

/-- a packet that stays in flight over an event; only what a tick sends again is counted -/
def revise (m : Session) (e : SessionEvent × Instant) (p : InFlight) : InFlight :=
  if m.resends e p then
    match e.1 with
    | .tick => { p with sentAt := e.2, retransmits := p.retransmits + 1 }
    | _ => { p with sentAt := e.2 }
  else p

/-- the packet that an event sends -/
def posted? (m : Session) (e : SessionEvent × Instant) : Option InFlight :=
  match e.1, m.sessionId with
  | .send payload, some sessionId => (m.id? e).map fun id => ⟨id, .data sessionId id payload, e.2, 0⟩
  | _, _ => none

/-- the packets that get no outcome from an event -/
def remaining (m : Session) (e : SessionEvent × Instant) (packets : List InFlight) : List InFlight :=
  packets.drop (outcomes (m.step e).2).length

/-- what an event makes of the packets without an outcome -/
def post (m : Session) (e : SessionEvent × Instant) (packets : List InFlight) : List InFlight :=
  (m.remaining e packets).map (m.revise e) ++ (m.posted? e).toList

/-! ### What leaves the packets in flight alone -/

variable {m : Session} {e : SessionEvent × Instant}

/-- held packets have their turn without touching any that are in flight -/
theorem drain_frame (fuel : Nat) (m : Session) :
    ∃ next reorder, (drain fuel m).1 = { m with nextRemoteId := next, reorder } := by
  induction fuel generalizing m with
  | zero => exact ⟨m.nextRemoteId, m.reorder, rfl⟩
  | succ fuel ih =>
    unfold drain
    split
    · exact ⟨m.nextRemoteId, m.reorder, rfl⟩
    · exact ih _

/-- what is received in sequence concerns nothing but the sequence -/
theorem sequence_frame (m : Session) (id : PacketId) (payload : Bytes) :
    ∃ next reorder, (m.sequence id payload).1 = { m with nextRemoteId := next, reorder } := by
  unfold sequence
  split_ifs
  · exact drain_frame m.reorder.size (m.take payload).1
  · exact ⟨m.nextRemoteId, m.reorder, rfl⟩
  · obtain ⟨reorder, h⟩ := hold_eq m id payload
    exact ⟨m.nextRemoteId, reorder, h⟩

/-- the packets that a packet of data leaves in flight: some are acknowledged, others sent again -/
def heeded (m : Session) (p : Packet) (now : Instant) : List InFlight := (m.heed p now).1.inFlight

/-- the instant of the last word and the id of the session do not matter to the packets in flight -/
theorem heed_frame (m : Session) (p : Packet) (now : Instant) (lastReceived : Option Instant)
    (sessionId : Option UInt16) :
    heed { m with lastReceived, sessionId } p now =
      ({ m with lastReceived, sessionId, inFlight := m.heeded p now }, (m.heed p now).2) := by
  unfold heeded heed Step.next
  dsimp only
  split_ifs <;> rfl

theorem receiveData_frame (m : Session) (p : Packet) (now : Instant) :
    ∃ next reorder, (m.receiveData p now).1 =
      { m with lastReceived := some now, inFlight := m.heeded p now, nextRemoteId := next, reorder } := by
  have hheed : (heed { m with lastReceived := some now } p now).1 =
      { m with lastReceived := some now, inFlight := m.heeded p now } :=
    congrArg (·.1) (m.heed_frame p now (some now) m.sessionId)
  rw [receiveData_eq, Step.next]
  dsimp only
  rw [hheed]
  split_ifs
  · exact sequence_frame _ _ _
  · exact ⟨m.nextRemoteId, m.reorder, rfl⟩

/-! ### One event -/

theorem id?_eq_none (h : ∀ payload, e.1 ≠ .send payload) : m.id? e = none := by
  obtain ⟨e, now⟩ := e
  cases e with
  | send payload => exact absurd rfl (h payload)
  | connect =>
    unfold id? handle connect
    cases m.startedAt <;> rfl
  | _ => rfl

theorem posted?_eq_none (hid : m.id? e = none) : m.posted? e = none := by
  unfold posted?
  split
  · rw [hid, Option.map_none]
  · rfl

/-- the packets in flight after an event are what it makes of those before -/
def Posts (m : Session) (e : SessionEvent × Instant) : Prop := (m.step e).1.inFlight = m.post e m.inFlight

/-- an event that sends nothing new: how many packets have left is told by how many there are -/
theorem remaining_of_drop {k : Nat} (hk : k ≤ m.inFlight.length) (hid : m.id? e = none)
    (h : (m.step e).1.inFlight = (m.inFlight.drop k).map (m.revise e)) :
    m.remaining e m.inFlight = m.inFlight.drop k := by
  have hkept := congrArg List.length (turn m e).conserves
  have hout : (outcomes (m.step e).2).length = k := by
    simp only [flying, hid, h, List.length_append, List.length_map, List.length_drop, Option.toList_none,
      List.length_nil] at hkept
    omega
  rw [remaining, hout]

theorem posts_of_drop {k : Nat} (hk : k ≤ m.inFlight.length) (hid : m.id? e = none)
    (h : (m.step e).1.inFlight = (m.inFlight.drop k).map (m.revise e)) : Posts m e := by
  rw [Posts, post, remaining_of_drop hk hid h, posted?_eq_none hid, h, Option.toList_none, List.append_nil]

/-- packets that an event does not send again stay as they are -/
theorem map_revise (hr : ∀ p, m.resends e p = false) (packets : List InFlight) :
    packets.map (m.revise e) = packets := by
  have hsame (p : InFlight) : m.revise e p = p := by rw [revise, hr p]; rfl
  rw [List.map_congr_left fun p _ => hsame p, List.map_id']

theorem posts_of_same (hid : m.id? e = none) (hr : ∀ p, m.resends e p = false)
    (h : (m.step e).1.inFlight = m.inFlight) : Posts m e := by
  refine posts_of_drop (Nat.zero_le _) hid ?_
  rw [h, List.drop_zero, map_revise hr]

theorem posts_of_ends (hid : m.id? e = none) (h : (m.step e).1.inFlight = []) : Posts m e := by
  refine posts_of_drop (Nat.le_refl _) hid ?_
  rw [h, List.drop_length, List.map_nil]

theorem posts_connect (m : Session) (now : Instant) : Posts m (.connect, now) := by
  refine posts_of_same (id?_eq_none (by simp)) (fun _ => rfl) ?_
  unfold step handle connect
  cases m.startedAt <;> rfl

theorem posts_send (m : Session) (payload : Bytes) (now : Instant) : Posts m (.send payload, now) := by
  have hr : ∀ p, m.resends (.send payload, now) p = false := fun _ => rfl
  cases h : m.handle (.send payload) now with
  | error error =>
    obtain ⟨hid, hstep⟩ := step_error (e := (.send payload, now)) h
    exact posts_of_same hid hr (by rw [hstep]; rfl)
  | ok r =>
    obtain ⟨hid, hstep⟩ := step_ok (e := (.send payload, now)) h
    obtain ⟨sessionId, datagram, -, hs, -, rfl⟩ := send_eq h
    have hposted : m.posted? (.send payload, now) =
        some ⟨m.nextLocalId, .data sessionId m.nextLocalId payload, now, 0⟩ := by
      simp only [posted?, hs, hid, Option.map_some]
    have hremaining : m.remaining (.send payload, now) m.inFlight = m.inFlight := by rw [remaining, hstep]; rfl
    rw [Posts, post, hposted, hremaining, map_revise hr, hstep]
    rfl

@[simp] theorem resends_tick {now : Instant} {p : InFlight} :
    m.resends (.tick, now) p = true ↔ m.resendDeadline p ≤ now := decide_eq_true_iff

/-- sending again what is overdue is a revision -/
theorem resendDue_eq (m : Session) (now : Instant) :
    m.resendDue now = ({ m with inFlight := m.inFlight.map (m.revise (.tick, now)) },
      sendingAll ((m.inFlight.filter (m.resends (.tick, now))).map (·.packet.resent))) := rfl

/-- a tick ends nothing if the handshake is not late, the device not silent for too long and no packet given up -/
theorem trigger?_tick_eq_none_iff {now : Instant} :
    m.trigger? (.tick, now) = none ↔
      ¬isDue now m.handshakeDeadline = true ∧ ¬isDue now m.keepaliveDeadline = true ∧ ¬m.isExhausted now = true := by
  simp only [trigger?, lapse?]
  split_ifs <;> simp_all

/-- a tick that ends nothing says hello again if it is time to, and sends again what is overdue -/
theorem tick_of_lasting (hp : m.phase.isTerminal = false) {now : Instant} (ht : m.trigger? (.tick, now) = none) :
    m.tick now = (m.greetAgain now).next fun m => m.resendDue now := by
  obtain ⟨hlate, hsilent, hexhausted⟩ := trigger?_tick_eq_none_iff.1 ht
  have hlapse : m.lapse? now = none := by rw [lapse?, if_neg hsilent, if_neg hexhausted]
  rw [tick_eq, if_neg (by rw [hp]; decide), if_neg hlate]
  -- saying hello again is no reason to end
  obtain ⟨nextHello, sent, -, hg⟩ := greetAgain_eq m now
  have hsame : lapse? { m with nextHello } now = m.lapse? now := rfl
  rw [hg, Step.next, Step.next, catchUp_eq, hsame, hlapse]

/-- the session after a tick that ends nothing -/
theorem tick_session (hp : m.phase.isTerminal = false) {now : Instant} (ht : m.trigger? (.tick, now) = none) :
    (m.tick now).1 = { m with
      nextHello := if isDue now m.helloDeadline then some (now + m.config.helloInterval) else m.nextHello
      inFlight := m.inFlight.map (m.revise (.tick, now)) } := by
  rw [tick_of_lasting hp ht, greetAgain, Step.next, resendDue_eq]
  split_ifs <;> rfl

/-- what is said at a tick that ends nothing -/
theorem tick_actions (hp : m.phase.isTerminal = false) {now : Instant} (ht : m.trigger? (.tick, now) = none) :
    (m.tick now).2 = (m.greetAgain now).2 ++
      sendingAll ((m.inFlight.filter (m.resends (.tick, now))).map (·.packet.resent)) := by
  obtain ⟨nextHello, sent, -, hg⟩ := greetAgain_eq m now
  rw [tick_of_lasting hp ht, hg, Step.next, resendDue_eq]
  rfl

theorem posts_tick (hp : m.phase.isTerminal = false) (now : Instant) : Posts m (.tick, now) := by
  have hid : m.id? (.tick, now) = none := rfl
  cases ht : m.trigger? (.tick, now) with
  | some reason => exact posts_of_ends hid ((turn m (.tick, now)).ended hp ht).inFlight
  | none =>
    refine posts_of_drop (Nat.zero_le _) hid ?_
    show (m.tick now).1.inFlight = _
    rw [tick_session hp ht, List.drop_zero]

/-- what a datagram is to a session that lasts: of the hello exchange, of the session's own, or nothing to it -/
inductive Reading (m : Session) (bytes : Bytes) (now : Instant) : Prop
  | hello {p : Packet} (hd : Packet.decode bytes = .ok p) (hf : p.header.flags.contains .hello = true)
    (hr : m.receive bytes now = m.receiveHello p now)
  | own {p : Packet} {m' : Session} (hd : Packet.decode bytes = .ok p) (hf : p.header.flags.contains .hello = false)
    (hm : m.recognize? p.header = some m') (hr : m.receive bytes now = m'.receiveData p now)
  | dropped (hd : ∀ p, Packet.decode bytes = .ok p →
      p.header.flags.contains .hello = false ∧ m.recognize? p.header = none)
    (hr : m.receive bytes now = m.still)

theorem reading (hp : m.phase.isTerminal = false) (bytes : Bytes) (now : Instant) : Reading m bytes now := by
  cases hd : Packet.decode bytes with
  | error error => exact .dropped (fun p h => by rw [hd] at h; cases h) (receive_of_undecodable hd now)
  | ok p =>
    cases hf : p.header.flags.contains .hello with
    | true =>
      refine .hello hd hf ?_
      simp only [receive, hp, hd, hf, if_true, Bool.false_eq_true, if_false]
    | false =>
      cases hm : m.recognize? p.header with
      | none =>
        refine .dropped (fun q h => ?_) ?_
        · cases hd.symm.trans h
          exact ⟨hf, hm⟩
        · simp only [receive, hp, hd, hf, hm, Bool.false_eq_true, if_false]
      | some m' =>
        refine .own hd hf hm ?_
        simp only [receive, hp, hd, hf, hm, Bool.false_eq_true, if_false]

/-- what a packet of the session's own asks for, it asks for by a flag -/
theorem wanted?_of_own {p : Packet} {bytes : Bytes} (hd : Packet.decode bytes = .ok p)
    (hf : p.header.flags.contains .hello = false) (hown : (m.recognize? p.header).isSome = true) :
    m.wanted? bytes = if p.header.flags.contains .retransmitRequest then some p.header.resendFrom else none := by
  simp only [wanted?, hd, hf, hown, Bool.true_and, Bool.false_eq_true, if_false]

/-- packets that are acknowledged leave from the front -/
theorem inFlight_acknowledge (m : Session) (id : PacketId) :
    ∃ k ≤ m.inFlight.length, (m.acknowledge id).1.inFlight = m.inFlight.drop k :=
  ⟨_, Nat.sub_le _ _, List.suffix_iff_eq_drop.1 (List.dropWhile_suffix _)⟩

/-- what a packet of the session's own says about those in flight: some have left from the front, others are sent
again -/
theorem heed_eq (m : Session) {p : Packet} {bytes : Bytes} (hd : Packet.decode bytes = .ok p)
    (hf : p.header.flags.contains .hello = false) (hown : (m.recognize? p.header).isSome = true) (now : Instant) :
    ∃ k ≤ m.inFlight.length, m.heeded p now = (m.inFlight.drop k).map (m.revise (.datagram bytes, now)) ∧
      ∃ acks, (∀ datagram, .transmit datagram ∉ acks) ∧ (m.heed p now).2 =
        acks ++ sendingAll (((m.inFlight.drop k).filter (m.resends (.datagram bytes, now))).map (·.packet.resent)) := by
  set s := if p.header.flags.contains .ackReply then m.acknowledge p.header.ackId else m.still with hs
  have hdrop : ∃ k ≤ m.inFlight.length, s.1.inFlight = m.inFlight.drop k := by
    rw [hs]
    split_ifs
    · exact m.inFlight_acknowledge _
    · exact ⟨0, Nat.zero_le _, rfl⟩
  obtain ⟨k, hk, hdrop⟩ := hdrop
  have hacks : ∀ datagram, .transmit datagram ∉ s.2 := by
    rw [hs]
    split_ifs <;> simp [acknowledge, still]
  have hheed : m.heed p now = s.next fun m =>
      if p.header.flags.contains .retransmitRequest then m.resendFrom p.header.resendFrom now else m.still := rfl
  refine ⟨k, hk, ?_⟩
  rw [heeded, hheed, ← hdrop]
  have hresends : m.resends (.datagram bytes, now) = fun q =>
      p.header.flags.contains .retransmitRequest && !PacketId.isBefore q.id p.header.resendFrom := by
    funext q
    simp only [resends, wanted?_of_own hd hf hown]
    cases p.header.flags.contains .retransmitRequest <;> simp
  have hrevise : m.revise (.datagram bytes, now) = fun q =>
      if (p.header.flags.contains .retransmitRequest && !PacketId.isBefore q.id p.header.resendFrom) = true then
        { q with sentAt := now } else q := by
    funext q
    rw [revise, hresends]
  rw [hresends, hrevise]
  cases p.header.flags.contains .retransmitRequest with
  | false => exact ⟨by simp [Step.next, still], s.2, hacks, by simp [Step.next, still, sendingAll]⟩
  | true => exact ⟨by simp [Step.next, resendFrom], s.2, hacks, by simp [Step.next, resendFrom]⟩

/-- a packet of the hello exchange ends everything or changes nothing in flight -/
theorem inFlight_receiveHello (hp : m.phase.isTerminal = false) (p : Packet) (now : Instant) :
    (m.receiveHello p now).1.inFlight = m.inFlight ∨ (m.receiveHello p now).1.inFlight = [] := by
  unfold receiveHello
  split
  · exact .inl rfl
  · exact .inl rfl
  · exact .inr (ends_terminate hp _).inFlight
  · exact .inr (ends_terminate hp _).inFlight
  · exact .inl rfl

theorem posts_datagram (hp : m.phase.isTerminal = false) (bytes : Bytes) (now : Instant) :
    Posts m (.datagram bytes, now) := by
  have hid : m.id? (.datagram bytes, now) = none := rfl
  have hstep : m.step (.datagram bytes, now) = m.receive bytes now := rfl
  have hsame (hw : m.wanted? bytes = none) (h : (m.receive bytes now).1.inFlight = m.inFlight) :
      Posts m (.datagram bytes, now) := posts_of_same hid (fun _ => by simp only [resends, hw]; rfl) h
  cases reading hp bytes now with
  | @hello p hd hf hr =>
    rcases inFlight_receiveHello hp p now with hkept | hends
    · exact hsame (by simp only [wanted?, hd, hf, if_true]) (by rw [hr, hkept])
    · exact posts_of_ends hid (by rw [hstep, hr, hends])
  | @own p m' hd hf hm hr =>
    obtain ⟨k, hk, hheeded, -⟩ := m.heed_eq hd hf (by rw [hm]; rfl) now
    obtain ⟨next, reorder, hframe⟩ := m'.receiveData_frame p now
    -- the id that it may have learnt is all that is new to the session
    have hkept : m'.heeded p now = m.heeded p now := by
      rw [recognize_eq hm]
      exact congrArg (·.1.inFlight) (m.heed_frame p now m.lastReceived _)
    refine posts_of_drop hk hid ?_
    rw [hstep, hr, hframe, ← hheeded, ← hkept]
  | dropped hd hr =>
    refine hsame ?_ (by rw [hr]; rfl)
    unfold wanted?
    split
    · rfl
    · rename_i p hp
      obtain ⟨hf, hm⟩ := hd p hp
      rw [hf, hm]
      rfl

/-- what is in flight after an event that finds the session going is what the event makes of what was in flight before -/
theorem posts_step (hp : m.phase.isTerminal = false) (e : SessionEvent × Instant) : Posts m e := by
  obtain ⟨e, now⟩ := e
  have hends {reason : EndReason} (ht : m.trigger? (e, now) = some reason) : (m.step (e, now)).1.inFlight = [] :=
    ((turn m (e, now)).ended hp ht).inFlight
  cases e with
  | connect => exact posts_connect m now
  | datagram bytes => exact posts_datagram hp bytes now
  | tick => exact posts_tick hp now
  | send payload => exact posts_send m payload now
  | initComplete =>
    refine posts_of_same rfl (fun _ => rfl) ?_
    show m.initComplete.1.inFlight = _
    unfold initComplete enter
    split_ifs <;> rfl
  | close => exact posts_of_ends rfl (hends rfl)
  | socketFailed message => exact posts_of_ends rfl (hends rfl)

/-- no event changes what an ended session has in flight, or its phase -/
theorem frame_of_ended (hp : m.phase.isTerminal = true) (e : SessionEvent × Instant) :
    (m.step e).1.inFlight = m.inFlight ∧ (m.step e).1.phase = m.phase := by
  rcases (turn m e).of_ended hp with h | ⟨-, -, h⟩ <;> rw [h] <;> exact ⟨rfl, rfl⟩

/-- what holds of every packet in flight still does after an event, if it does of those that are kept and those that are
sent -/
theorem forall_inFlight_step {Q : InFlight → Prop} (h : ∀ p ∈ m.inFlight, Q p)
    (hrevise : m.trigger? e = none → ∀ p ∈ m.inFlight, Q (m.revise e p)) (hposted : ∀ p, m.posted? e = some p → Q p) :
    ∀ p ∈ (m.step e).1.inFlight, Q p := by
  intro p hmem
  cases hp : m.phase.isTerminal with
  | true =>
    rw [(frame_of_ended hp e).1] at hmem
    exact h p hmem
  | false =>
    cases ht : m.trigger? e with
    | some reason =>
      rw [((turn m e).ended hp ht).inFlight] at hmem
      cases hmem
    | none =>
      rw [posts_step hp e, post] at hmem
      rcases List.mem_append.1 hmem with hmem | hmem
      · obtain ⟨q, hq, rfl⟩ := List.mem_map.1 hmem
        exact hrevise ht q (List.mem_of_mem_drop hq)
      · exact hposted p (Option.mem_toList.1 hmem)

theorem id?_of_ended (hp : m.phase.isTerminal = true) (e : SessionEvent × Instant) : m.id? e = none := by
  have h := turn m e
  generalize m.id? e = id, m.step e = s at h
  cases h with
  | sends _ hlive _ =>
    rw [hlive] at hp
    exact absurd hp (by decide)
  | _ => rfl

/-- **One event.** What is in flight after any event is what the event makes of it; after the end nothing is, and nothing
is sent any more. -/
theorem inFlight_step (hm : Settled m) (e : SessionEvent × Instant) : (m.step e).1.inFlight = m.post e m.inFlight := by
  cases hp : m.phase.isTerminal with
  | false => exact posts_step hp e
  | true =>
    rw [(frame_of_ended hp e).1, hm hp, post, posted?_eq_none (id?_of_ended hp e), remaining, List.drop_nil]
    rfl

/-! ### What every packet in flight keeps -/

theorem config_step (m : Session) (e : SessionEvent × Instant) : (m.step e).1.config = m.config := by
  rcases step_cases m e with ⟨r, hr, hs⟩ | hs
  · rw [hs]
    obtain ⟨e, now⟩ := e
    cases e with
    | connect => exact (quiet_connect hr).config
    | datagram bytes =>
      cases hr
      show (m.receive bytes now).1.config = _
      cases hp : m.phase.isTerminal with
      | true => rw [receive, if_pos hp]; rfl
      | false =>
        cases reading hp bytes now with
        | @hello p _ _ hr => rw [hr, (quiet_receiveHello m p now).config]
        | @own p m' _ _ hm hr =>
          obtain ⟨next, reorder, hframe⟩ := m'.receiveData_frame p now
          rw [hr, hframe, recognize_eq hm]
        | dropped _ hr => rw [hr]; rfl
    | tick =>
      cases hr
      exact (quiet_tick m now).config
    | send payload => exact (quiet_send hr).config
    | initComplete =>
      cases hr
      exact (quiet_initComplete m).config
    | close =>
      cases hr
      exact (quiet_close m).config
    | socketFailed message =>
      cases hr
      exact (quiet_terminate m _).config
  · rw [hs]
    rfl

theorem config_run (m : Session) (events : List (SessionEvent × Instant)) : (m.run events).1.config = m.config :=
  run_keeps (fun m' e h => (config_step m' e).trans h) rfl events

theorem revise_packet (m : Session) (e : SessionEvent × Instant) (p : InFlight) : (m.revise e p).packet = p.packet := by
  unfold revise
  repeat' split
  all_goals rfl

/-- a packet that an event sends, or sends again, was sent at the event -/
theorem sentAt_revise (m : Session) (e : SessionEvent × Instant) (p : InFlight) :
    (m.revise e p).sentAt = if m.resends e p then e.2 else p.sentAt := by
  unfold revise
  split_ifs
  · split
    · rfl
    · rfl
  · rfl

theorem sentAt_of_posted? {p : InFlight} (h : m.posted? e = some p) : p.sentAt = e.2 := by
  unfold posted? at h
  split at h
  · obtain ⟨id, -, rfl⟩ := Option.map_eq_some_iff.1 h
    rfl
  · cases h

end VisionMixer.Session
