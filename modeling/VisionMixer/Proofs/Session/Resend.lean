/-
What a session sends again, held against what it has sent.

`mail` are the packets that the sends of a history have put on the wire, as they read there; the first has the number 0.
Those with an outcome are the first of them, and those in flight are the rest, in the same order (`Tallied.mailed`). So a
packet in flight has the number of its place, and `again` are the numbers of those that one event sends again. What an
event puts on the wire but does not send anew is exactly these packets, marked as sent before (`echoes_step`).

`attempts` are the numbers that the ticks of a history have sent again. The count that a session keeps with a packet in
flight is how often its number is among them, which is why that is never more often than may be (`tallied_step`).
`resends_what_was_sent` says it of every history.
-/
import VisionMixer.Proofs.Session.Span
import VisionMixer.Proofs.Session.Timeout

namespace VisionMixer

/-- the packet of data that an action puts on the wire, as it reads there -/
def SessionAction.data? : SessionAction → Option Packet
  | .transmit datagram => (Packet.decode datagram).toOption.filter (·.header.flags.contains .ackRequest)
  | _ => none

/-- the packets of data that actions put on the wire, in order -/
def dataOf (actions : List SessionAction) : List Packet := actions.filterMap SessionAction.data?

@[simp] theorem dataOf_append (a b : List SessionAction) : dataOf (a ++ b) = dataOf a ++ dataOf b :=
  List.filterMap_append

/-- a packet with its length filled in -/
def Packet.filled (p : Packet) : Packet :=
  { p with header := { p.header with length := UInt16.ofNat (Header.size + p.payload.length) } }

namespace Session

open PacketId (wrap)

/-! ### What reads as data -/

theorem dataOf_of_no_transmit {actions : List SessionAction} (h : ∀ d, .transmit d ∉ actions) : dataOf actions = [] := by
  refine List.filterMap_eq_nil_iff.2 fun a ha => ?_
  cases a <;> first | rfl | exact absurd ha (h _)

/-- a packet that asks for no acknowledgement does not read as data -/
theorem data?_of_plain {p : Packet} {datagram : Bytes} (hd : p.encode = .ok datagram) {f : PacketFlags}
    (hf : p.header.flags = f) (hplain : PacketFlags.contains ⟨f.bits &&& 0x1F⟩ .ackRequest = false) :
    SessionAction.data? (.transmit datagram) = none := by
  simp only [SessionAction.data?, Packet.decode_encode hd, hf]
  split
  · rfl
  · refine Option.filter_eq_none_iff.2 fun q hq => ?_
    cases hq
    rw [hplain]
    decide

theorem dataOf_of_plain {p : Packet} {f : PacketFlags} (hf : p.header.flags = f)
    (hplain : PacketFlags.contains ⟨f.bits &&& 0x1F⟩ .ackRequest = false) : dataOf (sending p) = [] := by
  refine List.filterMap_eq_nil_iff.2 fun a ha => ?_
  obtain ⟨datagram, hd, rfl⟩ := eq_transmit_of_mem_sending ha
  exact data?_of_plain hd hf hplain

theorem dataOf_hello (id : UInt16) (code : ConnectCode) : dataOf (sending (.hello id code)) = [] :=
  dataOf_of_plain (f := .hello) rfl (by decide)

theorem dataOf_ack (sessionId : UInt16) (id : PacketId) : dataOf (sending (.ack sessionId id)) = [] :=
  dataOf_of_plain (f := .ackReply) rfl (by decide)

/-- what a session says about packets that it receives is no data -/
theorem dataOf_receipts {actions : List SessionAction} (h : ∀ a ∈ actions, Receipt a) : dataOf actions = [] := by
  refine List.filterMap_eq_nil_iff.2 fun a ha => ?_
  cases h a ha with
  | content records => rfl
  | had hd => exact data?_of_plain hd (f := .ackReply) rfl (by decide)
  | missed hd => exact data?_of_plain hd (f := .retransmitRequest) rfl (by decide)

/-- a packet as a session takes it into flight: it asks for an acknowledgement and for nothing else, its ids lie inside
their space and it fits into a datagram -/
structure Posted (p : Packet) : Prop where
  flags : p.header.flags = .ackRequest
  inside : ¬(PacketId.space ≤ p.header.packetId ∨ PacketId.space ≤ p.header.ackId ∨ PacketId.space ≤ p.header.resendFrom)
  fits : Fits p.payload

/-- a packet that fits into a datagram and asks for an acknowledgement reads as it is, its length filled in -/
theorem dataOf_sending {p : Packet} (hfits : Fits p.payload)
    (hinside : ¬(PacketId.space ≤ p.header.packetId ∨ PacketId.space ≤ p.header.ackId ∨
      PacketId.space ≤ p.header.resendFrom))
    (hmask : p.header.flags.bits &&& 0x1F = p.header.flags.bits) (hflag : p.header.flags.contains .ackRequest = true) :
    dataOf (sending p) = [p.filled] := by
  obtain ⟨datagram, hd⟩ := (encode_ok_iff p).2 hfits
  have hread : Packet.decode datagram = .ok p.filled := by
    rw [Packet.decode_encode hd, if_neg hinside, hmask]
    rfl
  have hdata : SessionAction.data? (.transmit datagram) = some p.filled := by
    rw [SessionAction.data?, hread]
    exact Option.filter_eq_some_iff.2 ⟨rfl, hflag⟩
  rw [sending, hd, dataOf, List.filterMap_cons_some hdata, List.filterMap_nil]

theorem Posted.dataOf_eq {p : Packet} (h : Posted p) : dataOf (sending p) = [p.filled] := by
  refine dataOf_sending h.fits h.inside ?_ ?_ <;> rw [h.flags] <;> decide

/-- a packet that is sent again reads as it did, but for the mark -/
theorem Posted.dataOf_resent_eq {p : Packet} (h : Posted p) : dataOf (sending p.resent) = [p.filled.resent] := by
  have hflags : p.resent.header.flags = PacketFlags.ackRequest.union .retransmit := congrArg (PacketFlags.union · .retransmit) h.flags
  refine dataOf_sending (p := p.resent) h.fits h.inside ?_ ?_ <;> rw [hflags] <;> decide

theorem dataOf_sendingAll_resent {packets : List InFlight} (h : ∀ p ∈ packets, Posted p.packet) :
    dataOf (sendingAll (packets.map (·.packet.resent))) = packets.map (·.packet.filled.resent) := by
  induction packets with
  | nil => rfl
  | cons p packets ih =>
    rw [sendingAll, List.map_cons, List.flatMap_cons, dataOf_append, (h p (List.mem_cons_self ..)).dataOf_resent_eq,
      List.map_cons]
    exact congrArg _ (ih fun q hq => h q (List.mem_cons_of_mem _ hq))

/-! ### The mail and the attempts of a history -/

/-- the packets that the sends of a history have put on the wire, in order -/
def mail (m : Session) : List (SessionEvent × Instant) → List Packet
  | [] => []
  | e :: events => (if (m.id? e).isSome then dataOf (m.step e).2 else []) ++ (m.step e).1.mail events

/-- the numbers of the packets that an event sends again, when those in flight are numbered from `n` on -/
def again (m : Session) (n : Nat) (e : SessionEvent × Instant) : List Nat :=
  (((m.remaining e m.inFlight).zipIdx (n + (outcomes (m.step e).2).length)).filter fun x => m.resends e x.1).map (·.2)

/-- those that count as attempts: the packets that a tick sends again -/
def tried (m : Session) (n : Nat) (e : SessionEvent × Instant) : List Nat :=
  match e.1 with
  | .tick => m.again n e
  | _ => []

/-- the numbers of the packets that the ticks of a history have sent again, once for each time -/
def attempts (m : Session) (n : Nat) : List (SessionEvent × Instant) → List Nat
  | [] => []
  | e :: events => m.tried n e ++ (m.step e).1.attempts (n + (outcomes (m.step e).2).length) events

theorem mail_append (m : Session) (before after : List (SessionEvent × Instant)) :
    m.mail (before ++ after) = m.mail before ++ (m.run before).1.mail after := by
  induction before generalizing m with
  | nil => rfl
  | cons e before ih => rw [List.cons_append, mail, ih, mail, run_cons, Step.next, List.append_assoc]

theorem attempts_append (m : Session) (n : Nat) (before after : List (SessionEvent × Instant)) :
    m.attempts n (before ++ after) =
      m.attempts n before ++ (m.run before).1.attempts (n + (outcomes (m.run before).2).length) after := by
  induction before generalizing m n with
  | nil => rfl
  | cons e before ih =>
    rw [List.cons_append, attempts, ih, attempts, run_cons, Step.next, List.append_assoc, outcomes_append,
      List.length_append, Nat.add_assoc]

/-! ### What one event sends again -/

variable {m : Session} {e : SessionEvent × Instant}

theorem dataOf_terminate (m : Session) (reason : EndReason) : dataOf (m.terminate reason).2 = [] := by
  refine dataOf_of_no_transmit fun d h => ?_
  unfold terminate at h
  split at h
  · cases h
  · simp at h

theorem dataOf_receiveHello (m : Session) (p : Packet) (now : Instant) : dataOf (m.receiveHello p now).2 = [] := by
  unfold receiveHello
  split
  · rw [dataOf_append, dataOf_ack]
    rfl
  · exact dataOf_ack _ _
  · exact dataOf_terminate m _
  · exact dataOf_terminate m _
  · rfl

theorem dataOf_greetAgain (m : Session) (now : Instant) : dataOf (m.greetAgain now).2 = [] := by
  unfold greetAgain
  split
  · exact dataOf_hello _ _
  · rfl

/-- a tick that ends a session sends nothing again -/
theorem dataOf_tick_of_trigger {now : Instant} {reason : EndReason} (ht : m.trigger? (.tick, now) = some reason) :
    dataOf (m.tick now).2 = [] := by
  rw [tick_eq]
  split_ifs with _ hlate
  · rfl
  · exact dataOf_terminate m _
  · obtain ⟨nextHello, sent, -, hg⟩ := greetAgain_eq m now
    have hsent : dataOf sent = [] := (congrArg (dataOf ·.2) hg).symm.trans (dataOf_greetAgain m now)
    have hlapse : lapse? { m with nextHello } now = some reason := by
      rw [trigger?, if_neg hlate] at ht
      exact ht
    rw [hg, Step.next, dataOf_append, hsent, catchUp_eq, hlapse]
    exact dataOf_terminate _ _

/-- what an event puts on the wire as data are the packets that it sends again -/
def Echoes (m : Session) (e : SessionEvent × Instant) : Prop :=
  dataOf (m.step e).2 = dataOf (sendingAll (((m.remaining e m.inFlight).filter (m.resends e)).map (·.packet.resent)))

/-- an event that sends nothing again, and no data -/
theorem echoes_of_silent (hr : ∀ p, m.resends e p = false) (h : dataOf (m.step e).2 = []) : Echoes m e := by
  rw [Echoes, h, List.filter_eq_nil_iff.2 fun p _ => by rw [hr p]; decide]
  rfl

theorem echoes_of_ended (hm : Settled m) (hp : m.phase.isTerminal = true) (e : SessionEvent × Instant) :
    Echoes m e := by
  have hnone : m.remaining e m.inFlight = [] := by rw [remaining, hm hp, List.drop_nil]
  rw [Echoes, hnone]
  rcases (turn m e).of_ended hp with h | ⟨-, -, h⟩
  · rw [h]
    rfl
  · rw [h]
    exact dataOf_hello _ _

theorem echoes_connect (m : Session) (now : Instant) : Echoes m (.connect, now) := by
  refine echoes_of_silent (fun _ => rfl) ?_
  unfold step handle connect
  cases m.startedAt with
  | none => exact dataOf_hello _ _
  | some _ => rfl

theorem echoes_datagram (hp : m.phase.isTerminal = false) (bytes : Bytes) (now : Instant) :
    Echoes m (.datagram bytes, now) := by
  cases reading hp bytes now with
  | @hello p hd hf hr =>
    refine echoes_of_silent (fun _ => by simp only [resends, wanted?, hd, hf, if_true]; rfl) ?_
    exact (congrArg (dataOf ·.2) hr).trans (dataOf_receiveHello m p now)
  | @own p m' hd hf hown hr =>
    have haccepts : Accepts m bytes p := ⟨hd, hp, hf, by rw [hown]; rfl⟩
    obtain ⟨hkept, receipts, hactions, hreceipts⟩ := step_of_accepts haccepts now
    obtain ⟨k, hk, hheeded, acks, hacks, hheed⟩ := m.heed_eq hd hf haccepts.own now
    rw [Echoes, remaining_of_drop hk rfl (hkept.trans hheeded), hactions, hheed, dataOf_append, dataOf_append,
      dataOf_receipts hreceipts, dataOf_of_no_transmit hacks, List.append_nil, List.nil_append]
  | dropped hd hr =>
    refine echoes_of_silent (fun _ => ?_) (congrArg (dataOf ·.2) hr)
    simp only [resends, wanted?]
    split
    · rfl
    · rename_i p hp
      obtain ⟨hf, hown⟩ := hd p hp
      rw [hf, hown]
      rfl

theorem echoes_tick (hp : m.phase.isTerminal = false) (now : Instant) : Echoes m (.tick, now) := by
  cases ht : m.trigger? (.tick, now) with
  | some reason =>
    have hends := ((turn m (.tick, now)).ended hp ht).inFlight
    rw [Echoes, remaining_of_drop (Nat.le_refl _) rfl (by rw [hends, List.drop_length]; rfl), List.drop_length]
    exact dataOf_tick_of_trigger ht
  | none =>
    have hsame : (m.step (.tick, now)).1.inFlight = (m.inFlight.drop 0).map (m.revise (.tick, now)) :=
      congrArg (·.inFlight) (tick_session hp ht)
    rw [Echoes, remaining_of_drop (Nat.zero_le _) rfl hsame, List.drop_zero]
    show dataOf (m.tick now).2 = _
    rw [tick_actions hp ht, dataOf_append, dataOf_greetAgain, List.nil_append]

/-- a send that is refused -/
theorem echoes_send {payload : Bytes} {now : Instant} (hid : m.id? (.send payload, now) = none) :
    Echoes m (.send payload, now) := by
  refine echoes_of_silent (fun _ => rfl) ?_
  cases h : m.handle (.send payload) now with
  | error error =>
    rw [(step_error (e := (.send payload, now)) h).2]
    rfl
  | ok r =>
    have hsome := (step_ok (e := (.send payload, now)) h).1
    obtain ⟨_, _, -, -, -, rfl⟩ := send_eq h
    cases hid.symm.trans hsome

theorem dataOf_initComplete (m : Session) : dataOf m.initComplete.2 = [] := by
  unfold initComplete enter
  split_ifs <;> rfl

theorem dataOf_close (m : Session) : dataOf m.close.2 = [] := by
  unfold close
  split_ifs
  · rfl
  · rw [Step.next, dataOf_append, dataOf_terminate, List.append_nil]
    exact dataOf_hello _ _
  · exact dataOf_terminate m .closed

/-- **What goes out besides new packets** are the packets that stay in flight over an event and are overdue or asked
for. -/
theorem echoes_step (hm : Settled m) (hid : m.id? e = none) : Echoes m e := by
  cases hp : m.phase.isTerminal with
  | true => exact echoes_of_ended hm hp e
  | false =>
    obtain ⟨e, now⟩ := e
    cases e with
    | connect => exact echoes_connect m now
    | datagram bytes => exact echoes_datagram hp bytes now
    | tick => exact echoes_tick hp now
    | send payload => exact echoes_send hid
    | initComplete => exact echoes_of_silent (fun _ => rfl) (dataOf_initComplete m)
    | close => exact echoes_of_silent (fun _ => rfl) (dataOf_close m)
    | socketFailed message => exact echoes_of_silent (fun _ => rfl) (dataOf_terminate m _)

/-- a packet that an event sends is what it puts on the wire, and all that it says -/
theorem step_of_id {id : PacketId} (hid : m.id? e = some id) :
    ∃ p, m.posted? e = some p ∧ (m.step e).2 = sending p.packet := by
  obtain ⟨e, now⟩ := e
  cases e with
  | send payload =>
    cases h : m.handle (.send payload) now with
    | error error =>
      rw [(step_error (e := (.send payload, now)) h).1] at hid
      cases hid
    | ok r =>
      obtain ⟨hsome, hstep⟩ := step_ok (e := (.send payload, now)) h
      obtain ⟨sessionId, datagram, -, hs, hd, rfl⟩ := send_eq h
      refine ⟨⟨m.nextLocalId, .data sessionId m.nextLocalId payload, now, 0⟩, ?_, ?_⟩
      · simp only [posted?, hs, hsome, Option.map_some]
      · rw [hstep, sending, hd]
  | _ =>
    rw [id?_eq_none (by simp)] at hid
    cases hid

theorem outcomes_length_le (m : Session) (e : SessionEvent × Instant) :
    (outcomes (m.step e).2).length ≤ m.inFlight.length := by
  cases hid : m.id? e with
  | none =>
    have hkept := congrArg List.length (turn m e).conserves
    simp only [hid, flying, List.length_append, List.length_map, Option.toList_none, List.length_nil] at hkept
    omega
  | some id =>
    obtain ⟨p, -, hstep⟩ := step_of_id hid
    rw [hstep, (onlySends_sending p.packet).outcomes_eq]
    exact Nat.zero_le _

theorem posted_of_posted? (hn : Numbered m) {p : InFlight} (h : m.posted? e = some p) : Posted p.packet := by
  have hfits := fits_of_posted h
  obtain ⟨n, -, hnext⟩ := hn
  unfold posted? at h
  split at h
  case h_2 => cases h
  case h_1 payload sessionId he hs =>
    obtain ⟨id, hid, rfl⟩ := Option.map_eq_some_iff.1 h
    have hids := ((turn m e).numbers hnext).1
    rw [hid] at hids
    have hwrap : id = wrap (n + m.flying.length) := by simpa using hids
    refine ⟨rfl, ?_, hfits⟩
    have hzero : ¬PacketId.space ≤ 0 := by decide
    rw [hwrap]
    exact fun h => h.elim (PacketId.wrap_inside _) fun h => h.elim hzero hzero

theorem posted_step (hn : Numbered m) (h : ∀ p ∈ m.inFlight, Posted p.packet) (e : SessionEvent × Instant) :
    ∀ p ∈ (m.step e).1.inFlight, Posted p.packet := by
  refine forall_inFlight_step h (fun _ p hp => ?_) fun p => posted_of_posted? hn
  rw [revise_packet]
  exact h p hp

theorem id_of_posted? {p : InFlight} (h : m.posted? e = some p) : m.id? e = some p.packet.header.packetId := by
  unfold posted? at h
  split at h
  · obtain ⟨id, hid, rfl⟩ := Option.map_eq_some_iff.1 h
    exact hid
  · cases h

/-- the mail of one event is the packet that it takes into flight -/
theorem mail_singleton (hn : Numbered m) (e : SessionEvent × Instant) :
    m.mail [e] = (m.posted? e).toList.map (·.packet.filled) := by
  rw [mail, mail, List.append_nil]
  cases hid : m.id? e with
  | none =>
    rw [posted?_eq_none hid]
    rfl
  | some id =>
    obtain ⟨p, hposted, hstep⟩ := step_of_id hid
    rw [hposted, hstep]
    exact (posted_of_posted? hn hposted).dataOf_eq

/-- what an event takes into flight has the id of the send -/
theorem ids_posted? (m : Session) (e : SessionEvent × Instant) :
    (m.posted? e).toList.map (·.packet.header.packetId) = (m.id? e).toList := by
  cases hid : m.id? e with
  | none =>
    rw [posted?_eq_none hid]
    rfl
  | some id =>
    obtain ⟨p, hposted, -⟩ := step_of_id hid
    have hsame : some id = some p.packet.header.packetId := hid.symm.trans (id_of_posted? hposted)
    rw [hposted, Option.some_inj.1 hsame]
    rfl

/-- the mail of a history has the ids of its sends, and nothing in it is marked as sent before -/
theorem mail_spec (hn : Numbered m) (events : List (SessionEvent × Instant)) :
    (m.mail events).map (·.header.packetId) = m.sentIds events ∧
      ∀ q ∈ m.mail events, q.header.flags = .ackRequest := by
  induction events generalizing m with
  | nil => exact ⟨rfl, fun _ hq => nomatch hq⟩
  | cons e events ih =>
    obtain ⟨hids, hflags⟩ := ih ((turn m e).numbered hn)
    rw [← List.singleton_append, mail_append, run_singleton, mail_singleton hn e, List.singleton_append, sentIds]
    refine ⟨?_, fun q hq => ?_⟩
    · rw [List.map_append, hids, ← ids_posted?, List.map_map]
      rfl
    · rcases List.mem_append.1 hq with hq | hq
      · obtain ⟨p, hp, rfl⟩ := List.mem_map.1 hq
        exact (posted_of_posted? hn (Option.mem_toList.1 hp)).flags
      · exact hflags q hq

/-! ### Numbers -/

section

variable {α : Type} (test : α → Bool) (l : List α) (k : Nat)

/-- the places of a list that pass a test, counted from `k` on -/
theorem forall₂_places :
    List.Forall₂ (fun i a => k ≤ i ∧ l[i - k]? = some a) (((l.zipIdx k).filter fun x => test x.1).map (·.2))
      (l.filter test) := by
  have hfst : l.filter test = ((l.zipIdx k).filter fun x => test x.1).map (·.1) := by
    conv_lhs => rw [← List.zipIdx_map_fst k l, List.filter_map]
    rfl
  rw [hfst, List.forall₂_map_left_iff, List.forall₂_map_right_iff, List.forall₂_same]
  intro x hx
  exact List.mem_zipIdx_iff_le_and_getElem?_sub.1 (List.mem_filter.1 hx).1

theorem pairwise_places : (((l.zipIdx k).filter fun x => test x.1).map (·.2)).Pairwise (· < ·) := by
  have hsnd : (l.zipIdx k).map (·.2) = List.range' k l.length := List.zipIdx_map_snd k l
  have hsub : (((l.zipIdx k).filter fun x => test x.1).map (·.2)).Sublist (List.range' k l.length) := by
    rw [← hsnd]
    exact List.filter_sublist.map _
  exact List.Pairwise.sublist hsub (List.pairwise_lt_range' 1)

end

variable {n : Nat}

theorem mem_again {i : Nat} :
    i ∈ m.again n e ↔
      ∃ j p, (m.remaining e m.inFlight)[j]? = some p ∧ m.resends e p = true ∧ i = n + (outcomes (m.step e).2).length + j := by
  simp only [again, List.mem_map, List.mem_filter, List.mem_zipIdx_iff_le_and_getElem?_sub, Prod.exists]
  constructor
  · rintro ⟨p, i, ⟨⟨hle, hp⟩, hr⟩, rfl⟩
    exact ⟨_, p, hp, hr, by omega⟩
  · rintro ⟨j, p, hp, hr, rfl⟩
    exact ⟨p, _, ⟨⟨Nat.le_add_right _ _, by rwa [Nat.add_sub_cancel_left]⟩, hr⟩, rfl⟩

theorem mem_tried {i : Nat} (h : i ∈ m.tried n e) :
    ∃ j < (m.remaining e m.inFlight).length, i = n + (outcomes (m.step e).2).length + j := by
  unfold tried at h
  split at h
  · obtain ⟨j, p, hp, -, rfl⟩ := mem_again.1 h
    exact ⟨j, (List.getElem?_eq_some_iff.1 hp).1, rfl⟩
  · cases h

/-- the count kept with a packet goes up by one when its number is among those tried, and stays otherwise -/
theorem retransmits_revise {j : Nat} {p : InFlight} (hp : (m.remaining e m.inFlight)[j]? = some p) :
    (m.revise e p).retransmits =
      p.retransmits + (m.tried n e).count (n + (outcomes (m.step e).2).length + j) := by
  obtain ⟨e, now⟩ := e
  cases e with
  | tick =>
    have hmem : n + (outcomes (m.step (.tick, now)).2).length + j ∈ m.again n (.tick, now) ↔
        m.resends (.tick, now) p = true := by
      rw [mem_again]
      constructor
      · rintro ⟨j', p', hp', hr, heq⟩
        obtain rfl : j = j' := by omega
        cases hp.symm.trans hp'
        exact hr
      · exact fun hr => ⟨j, p, hp, hr, rfl⟩
    have hnodup : (m.again n (.tick, now)).Nodup := (pairwise_places _ _ _).imp fun h => Nat.ne_of_lt h
    show _ = p.retransmits + (m.again n (.tick, now)).count _
    rw [hnodup.count, revise]
    by_cases hr : m.resends (.tick, now) p = true
    · rw [if_pos hr, if_pos (hmem.2 hr)]
    · rw [if_neg hr, if_neg fun h => hr (hmem.1 h), Nat.add_zero]
  | _ =>
    show _ = p.retransmits
    unfold revise
    split_ifs <;> rfl

/-- the mail of a history up to a state, with the attempts of its ticks, against the packets in flight: those from the
number `n` on are the ones without an outcome -/
structure Tallied (mail : List Packet) (tries : List Nat) (n : Nat) (m : Session) : Prop where
  settled : Settled m
  numbered : Numbered m
  within : Within m
  posted : ∀ p ∈ m.inFlight, Posted p.packet
  length : mail.length = n + m.inFlight.length
  mailed : mail.drop n = m.inFlight.map (·.packet.filled)
  tries_lt : ∀ i ∈ tries, i < mail.length
  counter : ∀ j p, m.inFlight[j]? = some p → p.retransmits = tries.count (n + j)
  bounded : ∀ i, tries.count i ≤ m.config.maxRetransmits

variable {mail : List Packet} {tries : List Nat}

/-- **One more event.** What is sent joins the mail at its end, what gets its outcome leaves the front, and an attempt is
counted with its packet. -/
theorem tallied_step (h : Tallied mail tries n m) (e : SessionEvent × Instant) :
    Tallied (mail ++ m.mail [e]) (tries ++ m.tried n e) (n + (outcomes (m.step e).2).length) (m.step e).1 := by
  have hout := outcomes_length_le m e
  have hlength := h.length
  have hnew := mail_singleton h.numbered e
  have hwithin := within_step h.within e
  have hremaining : (m.remaining e m.inFlight).length = m.inFlight.length - (outcomes (m.step e).2).length :=
    List.length_drop
  have hflight : (m.step e).1.inFlight = (m.remaining e m.inFlight).map (m.revise e) ++ (m.posted? e).toList :=
    inFlight_step h.settled e
  have htries : ∀ i ∈ tries ++ m.tried n e, i < mail.length := by
    intro i hi
    rcases List.mem_append.1 hi with hi | hi
    · exact h.tries_lt i hi
    · obtain ⟨j, hj, rfl⟩ := mem_tried hi
      omega
  have hcounter : ∀ j p, (m.step e).1.inFlight[j]? = some p →
      p.retransmits = (tries ++ m.tried n e).count (n + (outcomes (m.step e).2).length + j) := by
    intro j p hp
    rw [hflight, List.getElem?_append, List.length_map] at hp
    split_ifs at hp with hj
    · rw [List.getElem?_map, Option.map_eq_some_iff] at hp
      obtain ⟨q, hq, rfl⟩ := hp
      have hbefore := hq
      rw [remaining, List.getElem?_drop] at hbefore
      rw [retransmits_revise (n := n) hq, h.counter _ q hbefore, List.count_append, Nat.add_assoc n]
    · -- a packet just sent has a number that is new
      have hposted := List.mem_of_getElem? hp
      rw [Option.mem_toList] at hposted
      rw [retransmits_of_posted hposted, List.count_eq_zero.2 fun hi => ?_]
      have := htries _ hi
      omega
  refine ⟨(turn m e).settled h.settled, (turn m e).numbered h.numbered, hwithin,
    posted_step h.numbered h.posted e, ?_, ?_, fun i hi => ?_, hcounter, fun i => ?_⟩
  · rw [List.length_append, hnew, hflight, List.length_append, List.length_map, List.length_map]
    omega
  · rw [List.drop_append_of_le_length (by omega), ← List.drop_drop, h.mailed, ← List.map_drop, hnew, hflight,
      List.map_append, List.map_map]
    refine congrArg (· ++ _) (List.map_congr_left fun p _ => ?_)
    rw [Function.comp, revise_packet]
  · rw [List.length_append]
    exact Nat.lt_add_right _ (htries i hi)
  · rw [config_step]
    by_cases htried : i ∈ m.tried n e
    · -- a packet that is tried stays in flight, and its count within bounds
      obtain ⟨j, hj, rfl⟩ := mem_tried htried
      have hlt : j < (m.step e).1.inFlight.length := by
        rw [hflight, List.length_append, List.length_map]
        omega
      have hkept := hwithin _ (List.getElem_mem hlt)
      rwa [hcounter j _ (List.getElem?_eq_getElem hlt), config_step] at hkept
    · rw [List.count_append, List.count_eq_zero.2 htried, Nat.add_zero]
      exact h.bounded i

/-- **A history.** -/
theorem tallied_run (config : SessionConfig) (helloId : UInt16) (events : List (SessionEvent × Instant)) :
    let m := initial config helloId
    Tallied (m.mail events) (m.attempts 0 events) (outcomes (m.run events).2).length (m.run events).1 := by
  dsimp only
  induction events using List.reverseRecOn with
  | nil =>
    exact {
      settled := fun _ => rfl
      numbered := ⟨1, rfl, rfl⟩
      within := within_run config helloId []
      posted := fun _ hp => nomatch hp
      length := rfl
      mailed := rfl
      tries_lt := fun _ hi => nomatch hi
      counter := fun _ _ hp => nomatch hp
      bounded := fun _ => Nat.zero_le _ }
  | append_singleton events e ih =>
    have hstep := tallied_step ih e
    rwa [mail_append, attempts_append, run_append, Step.next, run_singleton, outcomes_append, List.length_append,
      attempts, attempts, List.append_nil, Nat.zero_add]

/-- what goes out again is what its numbers say -/
theorem again_spec (h : Tallied mail tries n m) (hid : m.id? e = none) :
    List.Forall₂ (fun i q => ∃ p, mail[i]? = some p ∧ q = p.resent) (m.again n e) (dataOf (m.step e).2) := by
  have hmailed (i : Nat) (hi : n ≤ i) : mail[i]? = (m.inFlight[i - n]?).map (·.packet.filled) := by
    rw [← List.getElem?_map, ← h.mailed, List.getElem?_drop, Nat.add_sub_cancel' hi]
  have hechoes : dataOf (m.step e).2 = _ := echoes_step h.settled hid
  rw [hechoes, dataOf_sendingAll_resent, List.forall₂_map_right_iff]
  · refine (forall₂_places _ _ _).imp fun i p ⟨hle, hp⟩ => ⟨p.packet.filled, ?_, rfl⟩
    rw [remaining, List.getElem?_drop] at hp
    rw [hmailed i (by omega), show i - n = (outcomes (m.step e).2).length +
      (i - (n + (outcomes (m.step e).2).length)) by omega, hp]
    rfl
  · exact fun p hp => h.posted p (List.mem_of_mem_drop (List.mem_filter.1 hp).1)

/-- a packet that a tick sends again has an attempt left -/
theorem retransmits_lt (h : Tallied mail tries n m) {now : Instant} {p : InFlight}
    (hp : p ∈ m.remaining (.tick, now) m.inFlight) (hr : m.resends (.tick, now) p = true) :
    p.retransmits < m.config.maxRetransmits := by
  have hafter : m.revise (.tick, now) p ∈ (m.step (.tick, now)).1.inFlight := by
    rw [inFlight_step h.settled]
    exact List.mem_append_left _ (List.mem_map_of_mem hp)
  have hkept := within_step h.within (.tick, now) _ hafter
  rwa [revise, if_pos hr, config_step] at hkept

/-- **Sent again as it was sent, and no more often than may be.** After every history the mail are the packets of the
sends so far, none of them marked, and the first of them have had their outcome. What any event that is not itself a send
puts on the wire as data are packets of the mail, as they were but for the mark, in the order of sending, and none that
has its outcome by then. No number is among the attempts of the ticks more often than a packet may be sent again; so often
does the session count it, and a tick that raises the count finds it below that bound. -/
theorem resends_what_was_sent (config : SessionConfig) (helloId : UInt16) (events : List (SessionEvent × Instant)) :
    let mail := (initial config helloId).mail events
    let tries := (initial config helloId).attempts 0 events
    let s := (initial config helloId).run events
    let m := s.1
    let done := (outcomes s.2).length
    mail.map (·.header.packetId) = (initial config helloId).sentIds events ∧
      mail.map (·.header.packetId) = outcomes s.2 ++ m.flying ∧
      (∀ p ∈ mail, p.header.flags = .ackRequest) ∧
      (∀ e, m.id? e = none →
        List.Forall₂ (fun i q => ∃ p, mail[i]? = some p ∧ q = p.resent) (m.again done e) (dataOf (m.step e).2) ∧
          (m.again done e).Pairwise (· < ·) ∧
          ∀ i ∈ m.again done e, done + (outcomes (m.step e).2).length ≤ i) ∧
      (∀ i, tries.count i ≤ config.maxRetransmits) ∧
      (∀ j p, m.inFlight[j]? = some p → p.retransmits = tries.count (done + j)) ∧
      ∀ now, ∀ p ∈ m.remaining (.tick, now) m.inFlight, m.resends (.tick, now) p = true →
        p.retransmits < config.maxRetransmits ∧
          (config.maxRetransmits < UInt32.size → p.retransmits + 1 < UInt32.size) := by
  have htally := tallied_run config helloId events
  have hconfig : ((initial config helloId).run events).1.config = config := config_run (initial config helloId) events
  obtain ⟨hids, hflags⟩ := mail_spec (m := initial config helloId) ⟨1, rfl, rfl⟩ events
  have hconserves : (initial config helloId).sentIds events = _ := run_conserves (initial config helloId) events
  refine ⟨hids, hids.trans hconserves, hflags, fun e hid => ⟨again_spec htally hid, pairwise_places _ _ _, ?_⟩,
    fun i => ?_, htally.counter, fun now p hp hr => ?_⟩
  · intro i hi
    obtain ⟨j, p, -, -, rfl⟩ := mem_again.1 hi
    exact Nat.le_add_right _ _
  · have hbounded := htally.bounded i
    rwa [hconfig] at hbounded
  · have hlt := retransmits_lt htally hp hr
    rw [hconfig] at hlt
    exact ⟨hlt, fun hsize => Nat.lt_of_le_of_lt hlt hsize⟩

/-- the third packet of three is overdue when the other two have been acknowledged -/
theorem resends_what_was_sent_talk :
    let m := ((initial default 5).run talk).1
    m.id? (.tick, 200000006) = none ∧ m.again 2 (.tick, 200000006) = [2] ∧
      dataOf (m.step (.tick, 200000006)).2 = [(Packet.data 9 3 []).filled.resent] ∧
      ∀ p ∈ m.inFlight, p.retransmits < (default : SessionConfig).maxRetransmits := by
  obtain ⟨-, -, -, hagain, -, -, htick⟩ := resends_what_was_sent default 5 talk
  have hid : ((initial default 5).run talk).1.id? (.tick, 200000006) = none := rfl
  have hmail : ((initial default 5).mail talk)[2]? = some (Packet.data 9 3 []).filled := by decide
  have hnumbers : ((initial default 5).run talk).1.again 2 (.tick, 200000006) = [2] := by decide
  have hall : List.Forall₂ _ (((initial default 5).run talk).1.again 2 (.tick, 200000006)) _ := (hagain _ hid).1
  have hoverdue : ∀ p ∈ ((initial default 5).run talk).1.inFlight,
      p ∈ ((initial default 5).run talk).1.remaining (.tick, 200000006) ((initial default 5).run talk).1.inFlight ∧
        ((initial default 5).run talk).1.resends (.tick, 200000006) p = true := by decide
  refine ⟨hid, hnumbers, ?_, fun p hp => (htick _ p (hoverdue p hp).1 (hoverdue p hp).2).1⟩
  rw [hnumbers] at hall
  generalize dataOf _ = sent at hall ⊢
  obtain ⟨q, rest, ⟨p, hp, rfl⟩, hrest, rfl⟩ := List.forall₂_cons_left_iff.1 hall
  rw [List.forall₂_nil_left_iff.1 hrest, Option.some_inj.1 (hmail.symm.trans hp)]

end Session

end VisionMixer
