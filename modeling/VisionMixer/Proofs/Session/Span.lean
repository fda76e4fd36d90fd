/-
What acknowledgements and requests take from the packets in flight.

The ids in flight follow one another and end before the next one, in every state that a session reaches (`consecutive`).
With at most half the id space in flight, an id among them divides them in two (`divides_before`, `stopsAt_through`), and
so does one shortly before the first, though more loosely: an acknowledgement stops at the first packet and never looks
at those further on, of which some count as before it (`stopsAt_stale`), while a request looks at all, so that none may
be more than half the space ahead (`divides_early`). So an acknowledgement takes exactly a front (`acknowledged_eq`) and
a request sends again exactly a back (`resent_eq`). A datagram may bring both. Any acknowledgement takes some front
(`acknowledged_front`), and any request leaves the packets in flight but for the instants at which they were last sent
(`resent_touches`), so `takes_front_and_back` says of either what it does whatever the other is.
-/
import VisionMixer.Proofs.Client.Flush
import VisionMixer.Proofs.Session.Flight

namespace VisionMixer

open PacketId (wrap)

namespace PacketId

theorem wrap_add_space (n : Nat) : wrap (n + 0x8000) = wrap n := by
  rw [wrap, wrap, Nat.add_mod_right]

theorem previous_iterate_wrap (n k : Nat) : previous^[k] (wrap (n + k)) = wrap n := by
  induction k with
  | zero => rfl
  | succ k ih => rw [Function.iterate_succ_apply, ← Nat.add_assoc, previous_wrap_succ, ih]

end PacketId

/-- a test that the first `k` of a list pass and the one behind them does not -/
structure StopsAt {α : Type} (test : α → Bool) (l : List α) (k : Nat) : Prop where
  front : ∀ a ∈ l.take k, test a = true
  stop : ∀ a ∈ (l.drop k).head?, test a = false

/-- a test that the first `k` of a list pass and the others do not -/
structure Divides {α : Type} (test : α → Bool) (l : List α) (k : Nat) : Prop where
  front : ∀ a ∈ l.take k, test a = true
  back : ∀ a ∈ l.drop k, test a = false

section

variable {α : Type} {test : α → Bool} {l : List α} {k : Nat}

namespace StopsAt

theorem span_back (h : StopsAt test l k) :
    (l.drop k).takeWhile test = [] ∧ (l.drop k).dropWhile test = l.drop k := by
  have hstop := h.stop
  cases hl : l.drop k with
  | nil => exact ⟨rfl, rfl⟩
  | cons a rest =>
    rw [hl] at hstop
    have ha : ¬test a = true := by
      rw [hstop a rfl]
      decide
    exact ⟨List.takeWhile_cons_of_neg ha, List.dropWhile_cons_of_neg ha⟩

theorem takeWhile_eq (h : StopsAt test l k) : l.takeWhile test = l.take k := by
  conv_lhs => rw [← List.take_append_drop k l]
  rw [List.takeWhile_append_of_pos h.front, h.span_back.1, List.append_nil]

theorem dropWhile_eq (h : StopsAt test l k) : l.dropWhile test = l.drop k := by
  conv_lhs => rw [← List.take_append_drop k l]
  rw [List.dropWhile_append_of_pos h.front, h.span_back.2]

end StopsAt

namespace Divides

theorem stopsAt (h : Divides test l k) : StopsAt test l k := ⟨h.front, fun a ha => h.back a (List.mem_of_head? ha)⟩

theorem filter_not_eq (h : Divides test l k) : l.filter (fun a => !test a) = l.drop k := by
  conv_lhs => rw [← List.take_append_drop k l]
  have hfront : (l.take k).filter (fun a => !test a) = [] := List.filter_eq_nil_iff.2 fun a ha => by simp [h.front a ha]
  have hback : (l.drop k).filter (fun a => !test a) = l.drop k := List.filter_eq_self.2 fun a ha => by simp [h.back a ha]
  rw [List.filter_append, hfront, hback, List.nil_append]

theorem map_not_eq (h : Divides test l k) (f : α → α) :
    l.map (fun a => if !test a then f a else a) = l.take k ++ (l.drop k).map f := by
  conv_lhs => rw [← List.take_append_drop k l]
  have hfront : (l.take k).map (fun a => if !test a then f a else a) = l.take k :=
    (List.map_congr_left fun a ha => by simp [h.front a ha]).trans (List.map_id _)
  have hback : (l.drop k).map (fun a => if !test a then f a else a) = (l.drop k).map f :=
    List.map_congr_left fun a ha => by simp [h.back a ha]
  rw [List.map_append, hfront, hback]

/-- what is left of a list without its front is divided at the same place -/
theorem drop (h : Divides test l k) (j : Nat) : Divides test (l.drop j) (k - j) where
  front := by
    intro a ha
    rw [← List.drop_take] at ha
    exact h.front a (List.mem_of_mem_drop ha)
  back := by
    intro a ha
    rw [List.drop_drop] at ha
    exact h.back a ((List.drop_subset_drop_left l (by omega)) ha)

end Divides

end

namespace Session

/-! ### Packets counted from a number on -/

/-- packets whose ids count up from `n` -/
def CountedFrom (n : Nat) (packets : List InFlight) : Prop :=
  packets.map (·.id) = (List.range' n packets.length).map wrap

namespace CountedFrom

variable {n k : Nat} {packets : List InFlight}

theorem getElem?_id (h : CountedFrom n packets) {i : Nat} {id : PacketId} (hi : (packets.map (·.id))[i]? = some id) :
    i < packets.length ∧ id = wrap (n + i) := by
  rw [h, List.getElem?_map, Option.map_eq_some_iff] at hi
  obtain ⟨x, hx, rfl⟩ := hi
  obtain ⟨hlt, rfl⟩ := List.getElem?_eq_some_iff.1 hx
  rw [List.length_range'] at hlt
  exact ⟨hlt, by rw [List.getElem_range', Nat.one_mul]⟩

/-- a packet at a place has the number of its place -/
theorem id_of_getElem (h : CountedFrom n packets) {i : Nat} (hi : i < packets.length) : packets[i].id = wrap (n + i) :=
  (h.getElem?_id (i := i) (by rw [List.getElem?_map, List.getElem?_eq_getElem hi]; rfl)).2

/-- a test of ids divides counted packets where it divides their numbers -/
theorem divides (h : CountedFrom n packets) (test : PacketId → Bool)
    (hfront : ∀ i < k, i < packets.length → test (wrap (n + i)) = true)
    (hback : ∀ i, k ≤ i → i < packets.length → test (wrap (n + i)) = false) :
    Divides (fun p : InFlight => test p.id) packets k where
  front := by
    intro p hp
    obtain ⟨i, hi, rfl⟩ := List.getElem_of_mem hp
    rw [List.length_take] at hi
    rw [List.getElem_take, h.id_of_getElem (by omega)]
    exact hfront i (by omega) (by omega)
  back := by
    intro p hp
    obtain ⟨i, hi, rfl⟩ := List.getElem_of_mem hp
    rw [List.length_drop] at hi
    rw [List.getElem_drop, h.id_of_getElem (by omega)]
    exact hback (k + i) (by omega) (by omega)

end CountedFrom

variable {m : Session} {n : Nat} {packets : List InFlight} {p : Packet}

/-- the count of the packets in flight may start as late as one likes -/
theorem Numbered.counted (h : Numbered m) :
    ∃ n, 0x8000 ≤ n ∧ CountedFrom n m.inFlight ∧ m.nextLocalId = wrap (n + m.inFlight.length) := by
  obtain ⟨n, hids, hnext⟩ := h
  rw [flying, List.length_map] at hids hnext
  refine ⟨n + 0x8000, Nat.le_add_left _ _, ?_, ?_⟩
  · have hshift (x : Nat) : wrap (0x8000 + x) = wrap x := by rw [Nat.add_comm, PacketId.wrap_add_space]
    rw [CountedFrom, hids, Nat.add_comm n, ← List.map_add_range', List.map_map]
    exact List.map_congr_left fun x _ => (hshift x).symm
  · rw [hnext, Nat.add_right_comm, PacketId.wrap_add_space]

/-- counted ids, and the one that is next -/
theorem CountedFrom.isChain (h : CountedFrom n packets) :
    (packets.map (·.id) ++ [wrap (n + packets.length)]).IsChain fun a b => b = PacketId.next a := by
  have hall : packets.map (·.id) ++ [wrap (n + packets.length)] = (List.range' n (packets.length + 1)).map wrap := by
    rw [h, List.range'_1_concat, List.map_append, List.map_singleton]
  rw [hall, List.isChain_map]
  exact (List.isChain_range' n (packets.length + 1) 1).imp fun a b hab => by rw [hab, PacketId.next_wrap]

/-- **Consecutive ids.** Each packet in flight has the id that follows the one before it, and the next id follows the
last of them. -/
theorem consecutive (config : SessionConfig) (helloId : UInt16) (events : List (SessionEvent × Instant)) :
    let m := ((initial config helloId).run events).1
    (m.flying ++ [m.nextLocalId]).IsChain fun a b => b = PacketId.next a := by
  have hm : Numbered ((initial config helloId).run events).1 :=
    run_keeps (fun m e => (turn m e).numbered) ⟨1, rfl, rfl⟩ events
  obtain ⟨n, -, hcounted, hnext⟩ := hm.counted
  dsimp only
  rw [hnext]
  exact hcounted.isChain

/-! ### What a packet says of those in flight -/

/-- how many packets in flight, by their ids, a packet acknowledges: those up to an id in flight, and none if the id is
shortly before the first -/
inductive Acks (ids : List PacketId) (p : Packet) : Nat → Prop
  | silent (h : p.header.flags.contains .ackReply = false) : Acks ids p 0
  | through (h : p.header.flags.contains .ackReply = true) {i : Nat} (hi : ids[i]? = some p.header.ackId) :
    Acks ids p (i + 1)
  | stale (h : p.header.flags.contains .ackReply = true) {first : PacketId} {k : Nat} (hf : ids.head? = some first)
    (hpos : 1 ≤ k) (hk : k ≤ 0x4000) (ha : p.header.ackId = PacketId.previous^[k] first) : Acks ids p 0

/-- from which packet in flight on, by their ids, a packet asks for them again: from an id in flight, or from the first
if the id is so shortly before it that the last is at most half the space ahead -/
inductive Asks (ids : List PacketId) (p : Packet) : Nat → Prop
  | silent (h : p.header.flags.contains .retransmitRequest = false) : Asks ids p ids.length
  | since (h : p.header.flags.contains .retransmitRequest = true) {i : Nat} (hi : ids[i]? = some p.header.resendFrom) :
    Asks ids p i
  | early (h : p.header.flags.contains .retransmitRequest = true) {first : PacketId} {k : Nat}
    (hf : ids.head? = some first) (hk : k + ids.length - 1 ≤ 0x4000)
    (hr : p.header.resendFrom = PacketId.previous^[k] first) : Asks ids p 0

/-- the first of counted packets, and an id before it -/
theorem CountedFrom.previous_first (h : CountedFrom n packets) {first : PacketId} {k : Nat} (hk : k ≤ n)
    (hf : (packets.map (·.id)).head? = some first) : PacketId.previous^[k] first = wrap (n - k) := by
  rw [List.head?_eq_getElem?] at hf
  have hback := PacketId.previous_iterate_wrap (n - k) k
  rw [Nat.sub_add_cancel hk] at hback
  rw [(h.getElem?_id hf).2, Nat.add_zero, hback]

/-- a packet is acknowledged with an id if it has the id or one before it -/
def isDone (id : PacketId) (p : InFlight) : Bool := p.id = id || PacketId.isBefore p.id id

theorem acknowledge_eq (m : Session) (id : PacketId) :
    m.acknowledge id = ({ m with inFlight := m.inFlight.dropWhile (isDone id) },
      (m.inFlight.takeWhile (isDone id)).map (.acknowledged ·.id)) := rfl

theorem resendFrom_eq (m : Session) (id : PacketId) (now : Instant) :
    m.resendFrom id now =
      ({ m with
        inFlight := m.inFlight.map fun p => if !PacketId.isBefore p.id id then { p with sentAt := now } else p },
        sendingAll ((m.inFlight.filter fun p => !PacketId.isBefore p.id id).map (·.packet.resent))) := rfl

/-- with at most half the space in flight, an id in flight divides the packets: those sent before it are before it -/
theorem divides_before (h : CountedFrom n packets) (hlength : packets.length ≤ 0x4000) {i : Nat}
    (hi : i < packets.length) : Divides (fun p : InFlight => PacketId.isBefore p.id (wrap (n + i))) packets i := by
  refine h.divides (fun id => PacketId.isBefore id (wrap (n + i))) ?_ ?_
  · intro j hj hlt
    exact (PacketId.isBefore_wrap (by omega) (by omega)).2 (by omega)
  · intro j hj hlt
    rw [Bool.eq_false_iff, ne_eq, PacketId.isBefore_wrap (by omega) (by omega)]
    omega

/-- an id before the first, at most half the space behind the last, is behind all packets -/
theorem divides_early (h : CountedFrom n packets) {k : Nat} (hn : k ≤ n) (hk : k + packets.length - 1 ≤ 0x4000) :
    Divides (fun p : InFlight => PacketId.isBefore p.id (wrap (n - k))) packets 0 := by
  refine h.divides (fun id => PacketId.isBefore id (wrap (n - k))) (fun j hj => absurd hj (Nat.not_lt_zero j)) ?_
  intro j _ hlt
  rw [Bool.eq_false_iff, ne_eq, PacketId.isBefore_wrap (by omega) (by omega)]
  omega

/-- an id in flight is acknowledged with all before it, and nothing after it -/
theorem stopsAt_through (h : CountedFrom n packets) (hlength : packets.length ≤ 0x4000) {i : Nat}
    (hi : i < packets.length) : StopsAt (isDone (wrap (n + i))) packets (i + 1) := by
  refine (h.divides (fun id => id = wrap (n + i) || PacketId.isBefore id (wrap (n + i))) ?_ ?_).stopsAt
  · intro j hj hlt
    rcases Nat.lt_succ_iff_lt_or_eq.1 hj with hj | rfl
    · rw [(PacketId.isBefore_wrap (by omega) (by omega)).2 (by omega), Bool.or_true]
    · rw [decide_eq_true rfl, Bool.true_or]
  · intro j hj hlt
    have hne : wrap (n + j) ≠ wrap (n + i) := fun heq => by
      have := PacketId.wrap_inj heq
      omega
    rw [decide_eq_false hne, Bool.false_or, Bool.eq_false_iff, ne_eq, PacketId.isBefore_wrap (by omega) (by omega)]
    omega

/-- an id before the first does not acknowledge the first; the packets further on, of which some may count as before
it, are not looked at -/
theorem stopsAt_stale (h : CountedFrom n packets) {k : Nat} (hn : k ≤ n) (hpos : 1 ≤ k) (hk : k ≤ 0x4000) :
    StopsAt (isDone (wrap (n - k))) packets 0 := by
  refine ⟨by simp, fun p hp => ?_⟩
  rw [List.drop_zero, List.head?_eq_getElem?] at hp
  obtain ⟨hlt, rfl⟩ := List.getElem?_eq_some_iff.1 hp
  have hne : wrap n ≠ wrap (n - k) := fun heq => by
    have := PacketId.wrap_inj heq
    omega
  rw [isDone, h.id_of_getElem hlt, Nat.add_zero, decide_eq_false hne, Bool.false_or, Bool.eq_false_iff, ne_eq,
    PacketId.isBefore_wrap (by omega) (by omega)]
  omega

/-- **What is acknowledged** is exactly a front. -/
theorem acknowledged_eq (h : CountedFrom n m.inFlight) (hn : 0x8000 ≤ n) (hlength : m.inFlight.length ≤ 0x4000) {k : Nat}
    (hk : Acks m.flying p k) :
    (if p.header.flags.contains .ackReply then m.acknowledge p.header.ackId else m.still) =
      ({ m with inFlight := m.inFlight.drop k }, (m.inFlight.take k).map (.acknowledged ·.id)) := by
  have hstop (hstops : StopsAt (isDone p.header.ackId) m.inFlight k) : m.acknowledge p.header.ackId =
      ({ m with inFlight := m.inFlight.drop k }, (m.inFlight.take k).map (.acknowledged ·.id)) := by
    rw [acknowledge_eq, hstops.takeWhile_eq, hstops.dropWhile_eq]
  cases hk with
  | silent hf =>
    rw [if_neg (by rw [hf]; decide)]
    rfl
  | @through hf i hi =>
    obtain ⟨hlt, hid⟩ := h.getElem?_id hi
    rw [if_pos hf]
    refine hstop ?_
    rw [hid]
    exact stopsAt_through h hlength hlt
  | @stale hf first k hfirst hpos hk ha =>
    rw [if_pos hf]
    refine hstop ?_
    rw [ha, h.previous_first (by omega) hfirst]
    exact stopsAt_stale h (by omega) hpos hk

/-- **What is sent again** is exactly a back, of the packets that an acknowledgement has left as of all; the packets
before it stay as they are. -/
theorem resent_eq (h : CountedFrom n m.inFlight) (hn : 0x8000 ≤ n) (hlength : m.inFlight.length ≤ 0x4000) {r : Nat}
    (hr : Asks m.flying p r) (k : Nat) (now : Instant) :
    let m' := { m with inFlight := m.inFlight.drop k }
    (if p.header.flags.contains .retransmitRequest then m'.resendFrom p.header.resendFrom now else m'.still) =
      ({ m with inFlight :=
          (m.inFlight.take r).drop k ++ (m.inFlight.drop (max k r)).map fun p => { p with sentAt := now } },
        sendingAll ((m.inFlight.drop (max k r)).map (·.packet.resent))) := by
  have hback : (m.inFlight.drop k).drop (r - k) = m.inFlight.drop (max k r) := by
    rw [List.drop_drop]
    congr 1
    omega
  have hfront : (m.inFlight.drop k).take (r - k) = (m.inFlight.take r).drop k := List.drop_take.symm
  have hresend (hd : Divides (fun q : InFlight => PacketId.isBefore q.id p.header.resendFrom) m.inFlight r) :
      resendFrom { m with inFlight := m.inFlight.drop k } p.header.resendFrom now =
        ({ m with inFlight :=
            (m.inFlight.take r).drop k ++ (m.inFlight.drop (max k r)).map fun p => { p with sentAt := now } },
          sendingAll ((m.inFlight.drop (max k r)).map (·.packet.resent))) := by
    have hd' := hd.drop k
    rw [resendFrom_eq]
    dsimp only
    rw [hd'.filter_not_eq, hd'.map_not_eq, hfront, hback]
  dsimp only
  cases hr with
  | silent hf =>
    have hnone : m.inFlight.drop (max k m.flying.length) = [] :=
      List.drop_eq_nil_of_le (by rw [flying, List.length_map]; omega)
    have hall : m.inFlight.take m.flying.length = m.inFlight := by rw [flying, List.length_map, List.take_length]
    rw [if_neg (by rw [hf]; decide), hnone, hall, List.map_nil, List.append_nil]
    rfl
  | @since hf i hi =>
    obtain ⟨hlt, hid⟩ := h.getElem?_id hi
    rw [if_pos hf]
    refine hresend ?_
    rw [hid]
    exact divides_before h hlength hlt
  | @early hf first j hfirst hj hid =>
    have hj : j + m.inFlight.length - 1 ≤ 0x4000 := by rwa [flying, List.length_map] at hj
    rw [if_pos hf]
    refine hresend ?_
    rw [hid, h.previous_first (by omega) hfirst]
    exact divides_early h (by omega) hj

/-- some front is acknowledged, whatever the id -/
theorem acknowledged_front (m : Session) (p : Packet) :
    ∃ k ≤ m.inFlight.length, (p.header.flags.contains .ackReply = false → k = 0) ∧
      (if p.header.flags.contains .ackReply then m.acknowledge p.header.ackId else m.still) =
        ({ m with inFlight := m.inFlight.drop k }, (m.inFlight.take k).map (.acknowledged ·.id)) := by
  split_ifs with hf
  · have hprefix : m.inFlight.takeWhile (isDone p.header.ackId) <+: m.inFlight := List.takeWhile_prefix _
    refine ⟨(m.inFlight.takeWhile (isDone p.header.ackId)).length, hprefix.length_le, fun hno => ?_, ?_⟩
    · rw [hf] at hno
      cases hno
    · have hdrop : (m.inFlight.takeWhile (isDone p.header.ackId) ++ m.inFlight.dropWhile (isDone p.header.ackId)).drop
          (m.inFlight.takeWhile (isDone p.header.ackId)).length = m.inFlight.dropWhile (isDone p.header.ackId) :=
        List.drop_left
      rw [List.takeWhile_append_dropWhile] at hdrop
      rw [acknowledge_eq, hdrop, ← List.prefix_iff_eq_take.1 hprefix]
  · exact ⟨0, Nat.zero_le _, fun _ => rfl, rfl⟩

/-- a packet in flight is as it was, but for the instant at which it was last sent -/
def Touched (now : Instant) (q q' : InFlight) : Prop := q' = q ∨ q' = { q with sentAt := now }

/-- whatever is sent again, no packet in flight changes in anything else, and none has its outcome -/
theorem resent_touches (m : Session) (p : Packet) (now : Instant) :
    let s := if p.header.flags.contains .retransmitRequest then m.resendFrom p.header.resendFrom now else m.still
    List.Forall₂ (Touched now) m.inFlight s.1.inFlight ∧ outcomes s.2 = [] := by
  dsimp only
  split_ifs
  · rw [resendFrom_eq]
    refine ⟨?_, (onlySends_sendingAll _).outcomes_eq⟩
    rw [List.forall₂_map_right_iff]
    refine List.forall₂_same.2 fun q _ => ?_
    split_ifs
    · exact .inr rfl
    · exact .inl rfl
  · exact ⟨List.forall₂_same.2 fun q _ => .inl rfl, rfl⟩

theorem heed_of_acknowledged {m' : Session} {acknowledged : List SessionAction}
    (h : (if p.header.flags.contains .ackReply then m.acknowledge p.header.ackId else m.still) = (m', acknowledged))
    (now : Instant) :
    let s := if p.header.flags.contains .retransmitRequest then m'.resendFrom p.header.resendFrom now else m'.still
    m.heed p now = (s.1, acknowledged ++ s.2) := by
  rw [heed, h]
  rfl

/-! ### What else a session says to a packet -/

/-- an action about packets that a session receives: what they hold, or a word on those it has or misses -/
inductive Receipt : SessionAction → Prop
  | content (records : List Record) : Receipt (.deliver records)
  | had {sessionId : UInt16} {id : PacketId} {datagram : Bytes} (h : (Packet.ack sessionId id).encode = .ok datagram) :
    Receipt (.transmit datagram)
  | missed {sessionId : UInt16} {id : PacketId} {datagram : Bytes}
    (h : (Packet.retransmitRequest sessionId id).encode = .ok datagram) : Receipt (.transmit datagram)

theorem Receipt.outcomes_eq {actions : List SessionAction} (h : ∀ a ∈ actions, Receipt a) : outcomes actions = [] := by
  refine List.filterMap_eq_nil_iff.2 fun a ha => ?_
  cases h a ha <;> rfl

theorem receipt_delivery (payload : Bytes) : ∀ a ∈ delivery payload, Receipt a := by
  intro a ha
  unfold delivery at ha
  split_ifs at ha
  · cases ha
  · split at ha
    · rw [List.mem_singleton.1 ha]
      exact .content _
    · cases ha

theorem receipt_drain (fuel : Nat) (m : Session) : ∀ a ∈ (drain fuel m).2, Receipt a := by
  induction fuel generalizing m with
  | zero => intro a ha; cases ha
  | succ fuel ih =>
    unfold drain
    split
    · intro a ha; cases ha
    · rename_i payload _
      intro a ha
      rcases List.mem_append.1 ha with ha | ha
      · exact receipt_delivery payload a ha
      · exact ih _ a ha

/-- one that is sent is the encoding of its packet -/
theorem eq_transmit_of_mem_sending {p : Packet} {a : SessionAction} (ha : a ∈ sending p) :
    ∃ datagram, p.encode = .ok datagram ∧ a = .transmit datagram := by
  unfold sending at ha
  split at ha
  · rename_i datagram hd
    exact ⟨datagram, hd, List.mem_singleton.1 ha⟩
  · cases ha

theorem receipt_acknowledgement (m : Session) : ∀ a ∈ m.acknowledgement, Receipt a := by
  intro a ha
  unfold acknowledgement at ha
  split at ha
  · obtain ⟨_, hd, rfl⟩ := eq_transmit_of_mem_sending ha
    exact .had hd
  · cases ha

theorem receipt_complaint (m : Session) : ∀ a ∈ m.complaint, Receipt a := by
  intro a ha
  unfold complaint at ha
  split at ha
  · obtain ⟨_, hd, rfl⟩ := eq_transmit_of_mem_sending ha
    exact .missed hd
  · cases ha

theorem receipt_sequence (m : Session) (id : PacketId) (payload : Bytes) :
    ∀ a ∈ (m.sequence id payload).2, Receipt a := by
  unfold sequence
  split_ifs
  · intro a ha
    rcases List.mem_append.1 ha with ha | ha
    · rcases List.mem_append.1 ha with ha | ha
      · exact receipt_delivery payload a ha
      · exact receipt_drain _ _ a ha
    · exact receipt_acknowledgement _ a ha
  · exact receipt_acknowledgement m
  · exact receipt_complaint m

/-! ### A datagram of the session's own -/

/-- a datagram that a session takes for a packet of its own -/
structure Accepts (m : Session) (bytes : Bytes) (p : Packet) : Prop where
  decodes : Packet.decode bytes = .ok p
  lasting : m.phase.isTerminal = false
  plain : p.header.flags.contains .hello = false
  own : (m.recognize? p.header).isSome = true

/-- what it says of the packets in flight is heeded, and then come actions about the packets that are received -/
theorem step_of_accepts {bytes : Bytes} (h : Accepts m bytes p) (now : Instant) :
    (m.step (.datagram bytes, now)).1.inFlight = m.heeded p now ∧
      ∃ receipts, (m.step (.datagram bytes, now)).2 = (m.heed p now).2 ++ receipts ∧ ∀ a ∈ receipts, Receipt a := by
  obtain ⟨m', hm'⟩ := Option.isSome_iff_exists.1 h.own
  have hstep : m.step (.datagram bytes, now) = m'.receiveData p now := by
    show m.receive bytes now = _
    simp only [receive, h.lasting, h.decodes, h.plain, hm', Bool.false_eq_true, if_false]
  have hheed : heed { m' with lastReceived := some now } p now =
      ({ m' with lastReceived := some now, inFlight := m.heeded p now }, (m.heed p now).2) := by
    rw [recognize_eq hm']
    exact m.heed_frame p now (some now) _
  rw [hstep, receiveData_eq, hheed, Step.next]
  dsimp only
  split_ifs
  · obtain ⟨next, reorder, hframe⟩ :=
      sequence_frame { m' with lastReceived := some now, inFlight := m.heeded p now } p.header.packetId p.payload
    exact ⟨by rw [hframe], _, rfl, receipt_sequence _ _ _⟩
  · exact ⟨rfl, [], rfl, by simp⟩

/-- every packet in flight fits into a datagram -/
def Carries (m : Session) : Prop := ∀ p ∈ m.inFlight, Fits p.packet.payload

theorem carries_step (m : Session) (e : SessionEvent × Instant) (h : Carries m) : Carries (m.step e).1 := by
  refine forall_inFlight_step h (fun _ p hp => ?_) (fun p hp => ?_)
  · rw [revise_packet]
    exact h p hp
  · obtain ⟨e, now⟩ := e
    cases e with
    | send payload =>
      cases hr : m.handle (.send payload) now with
      | error error =>
        rw [posted?_eq_none (step_error (e := (.send payload, now)) hr).1] at hp
        cases hp
      | ok r =>
        have hid := (step_ok (e := (.send payload, now)) hr).1
        obtain ⟨sessionId, datagram, -, hs, hd, rfl⟩ := send_eq hr
        simp only [posted?, hs, hid, Option.map_some, Option.some.injEq] at hp
        rw [← hp]
        exact (encode_ok_iff (.data sessionId m.nextLocalId payload)).1 ⟨datagram, hd⟩
    | _ => cases hp

/-- packets that fit are all sent, one datagram each -/
theorem sendingAll_resent {packets : List InFlight} (h : ∀ p ∈ packets, Fits p.packet.payload) :
    List.Forall₂ (fun p a => ∃ datagram, p.packet.resent.encode = .ok datagram ∧ a = .transmit datagram) packets
      (sendingAll (packets.map (·.packet.resent))) := by
  induction packets with
  | nil => exact .nil
  | cons p packets ih =>
    obtain ⟨datagram, hd⟩ := (encode_ok_iff p.packet.resent).2 (h p (List.mem_cons_self ..))
    have hsend : sending p.packet.resent = [.transmit datagram] := by rw [sending, hd]
    rw [sendingAll, List.map_cons, List.flatMap_cons, hsend]
    exact .cons ⟨datagram, hd, rfl⟩ (ih fun q hq => h q (List.mem_cons_of_mem _ hq))

/-- a packet gives some front its outcome, has others sent again, and then come actions about the packets received -/
theorem step_of_front {bytes : Bytes} (h : Accepts m bytes p) (now : Instant) {k : Nat}
    (hk : (if p.header.flags.contains .ackReply then m.acknowledge p.header.ackId else m.still) =
      ({ m with inFlight := m.inFlight.drop k }, (m.inFlight.take k).map (.acknowledged ·.id))) :
    let m' := { m with inFlight := m.inFlight.drop k }
    let t := if p.header.flags.contains .retransmitRequest then m'.resendFrom p.header.resendFrom now else m'.still
    let s := m.step (.datagram bytes, now)
    s.1.inFlight = t.1.inFlight ∧
      ∃ receipts, s.2 = (m.inFlight.take k).map (.acknowledged ·.id) ++ t.2 ++ receipts ∧ ∀ a ∈ receipts, Receipt a := by
  obtain ⟨hkept, receipts, hactions, hreceipts⟩ := step_of_accepts h now
  have hheed := heed_of_acknowledged hk now
  refine ⟨?_, receipts, ?_, hreceipts⟩
  · rw [hkept, heeded, hheed]
  · rw [hactions, hheed]

/-- what comes after the front gives no outcome -/
theorem outcomes_behind {sent receipts : List SessionAction} (hsent : outcomes sent = [])
    (hreceipts : ∀ a ∈ receipts, Receipt a) : outcomes (sent ++ receipts) = [] := by
  rw [outcomes_append, hsent, Receipt.outcomes_eq hreceipts, List.append_nil]

/-- **A front is acknowledged, a back is sent again.** In every state that a session reaches the ids in flight follow one
another and end before the next id. With at most half the id space in flight: a packet of the session's own that
acknowledges an id in flight gives their outcome to exactly the packets up to it, in the order of sending, and one that
acknowledges an id shortly before the first gives none; whatever else it says, the others stay in flight, and in nothing
change but the instant at which they were last sent. A packet that asks for packets from an id in flight on has exactly
those from it on sent again, each once and in that order, and one that asks from an id before the first has all sent
again, as long as the last is at most half the space ahead; the packets that have their outcome from it are left out, and
the others change in nothing but that instant, if they are sent again. -/
theorem takes_front_and_back (config : SessionConfig) (helloId : UInt16) (events : List (SessionEvent × Instant)) :
    let m := ((initial config helloId).run events).1
    ((m.flying ++ [m.nextLocalId]).IsChain fun a b => b = PacketId.next a) ∧
      ∀ (bytes : Bytes) (p : Packet) (now : Instant), m.inFlight.length ≤ 0x4000 → Accepts m bytes p →
        let s := m.step (.datagram bytes, now)
        (∀ k, Acks m.flying p k →
          (∃ others, s.2 = (m.inFlight.take k).map (.acknowledged ·.id) ++ others ∧ outcomes others = []) ∧
            List.Forall₂ (Touched now) (m.inFlight.drop k) s.1.inFlight ∧
            (p.header.flags.contains .retransmitRequest = false → s.1.inFlight = m.inFlight.drop k)) ∧
        ∀ r, Asks m.flying p r →
          let k := (outcomes s.2).length
          let again := m.inFlight.drop (max k r)
          (p.header.flags.contains .ackReply = false → k = 0) ∧
            s.1.inFlight = (m.inFlight.take r).drop k ++ again.map (fun q => { q with sentAt := now }) ∧
            ∃ transmissions receipts,
              s.2 = (m.inFlight.take k).map (.acknowledged ·.id) ++ transmissions ++ receipts ∧
                List.Forall₂ (fun q a => ∃ datagram, q.packet.resent.encode = .ok datagram ∧ a = .transmit datagram)
                  again transmissions ∧
                ∀ a ∈ receipts, Receipt a := by
  have hnumbered : Numbered ((initial config helloId).run events).1 :=
    run_keeps (fun m e => (turn m e).numbered) ⟨1, rfl, rfl⟩ events
  have hcarries : Carries ((initial config helloId).run events).1 :=
    run_keeps carries_step (by simp [Carries, initial]) events
  refine ⟨consecutive config helloId events, ?_⟩
  generalize ((initial config helloId).run events).1 = m at hnumbered hcarries ⊢
  intro bytes p now hlength haccepts
  obtain ⟨n, hn, hcounted, -⟩ := hnumbered.counted
  refine ⟨fun k hk => ?_, fun r hr => ?_⟩
  · obtain ⟨hkept, receipts, hactions, hreceipts⟩ :=
      step_of_front haccepts now (acknowledged_eq hcounted hn hlength hk)
    obtain ⟨htouched, hno⟩ := resent_touches { m with inFlight := m.inFlight.drop k } p now
    refine ⟨⟨_, hactions.trans (List.append_assoc ..), outcomes_behind hno hreceipts⟩, ?_, fun hf => ?_⟩
    · rw [hkept]
      exact htouched
    · rw [hkept, if_neg (by rw [hf]; decide)]
      rfl
  · -- whatever is acknowledged, it is some front
    obtain ⟨k, hle, hsilent, hk⟩ := acknowledged_front m p
    obtain ⟨hkept, receipts, hactions, hreceipts⟩ := step_of_front haccepts now hk
    have hresent := resent_eq hcounted hn hlength hr k now
    dsimp only at hresent hkept hactions
    rw [hresent] at hkept hactions
    have hcount : (outcomes (m.step (.datagram bytes, now)).2).length = k := by
      rw [hactions, List.append_assoc, outcomes_append, outcomes_acknowledged,
        outcomes_behind (onlySends_sendingAll _).outcomes_eq hreceipts, List.append_nil, List.length_map,
        List.length_take, Nat.min_eq_left hle]
    dsimp only
    rw [hcount]
    exact ⟨hsilent, hkept, _, receipts, hactions,
      sendingAll_resent fun q hq => hcarries q (List.mem_of_mem_drop hq), hreceipts⟩

/-- the device has the first of three packets and misses the third -/
def gap : Packet :=
  { header :=
      { flags := PacketFlags.ackReply.union .retransmitRequest, length := 12, sessionId := 9, ackId := 1, resendFrom := 3 }
    payload := [] }

theorem takes_front_and_back_gap :
    let m := ((initial default 5).run (talk.take 7)).1
    let s := m.step (.datagram (wire gap), 8)
    m.inFlight.length ≤ 0x4000 ∧ Accepts m (wire gap) gap ∧ Acks m.flying gap 1 ∧ Asks m.flying gap 2 ∧
      outcomes s.2 = [1] ∧ s.1.inFlight.map (fun q => (q.id, q.sentAt)) = [(2, 5), (3, 8)] := by
  have hlength : ((initial default 5).run (talk.take 7)).1.inFlight.length ≤ 0x4000 := by decide
  have haccepts : Accepts ((initial default 5).run (talk.take 7)).1 (wire gap) gap :=
    ⟨by rfl, by decide, by decide, by decide⟩
  have hacks : Acks ((initial default 5).run (talk.take 7)).1.flying gap 1 := .through (by decide) (by decide)
  have hasks : Asks ((initial default 5).run (talk.take 7)).1.flying gap 2 := .since (by decide) (by decide)
  obtain ⟨-, hspan⟩ := takes_front_and_back default 5 (talk.take 7)
  obtain ⟨hfront, hback⟩ := hspan (wire gap) gap 8 hlength haccepts
  obtain ⟨⟨others, hactions, hno⟩, -, -⟩ := hfront 1 hacks
  obtain ⟨-, hinFlight, -⟩ := hback 2 hasks
  have houtcomes : outcomes (((initial default 5).run (talk.take 7)).1.step (.datagram (wire gap), 8)).2 = [1] := by
    rw [hactions, outcomes_append, hno, List.append_nil]
    decide
  refine ⟨hlength, haccepts, hacks, hasks, houtcomes, ?_⟩
  rw [hinFlight, houtcomes]
  decide

end Session

end VisionMixer
