/-
One arrival in sequence.

A device numbers its data packets 1, 2, 3, … without bound and sends packet `n` under the id `PacketId.wrap n` with the
payload `P n`. `InSequence P E m` is the invariant that ties these numbers to the wrapping counter of a session: packet
`E` is the one it waits for, and what it holds back belongs to numbers after `E`, inside the window. `sequence_spec` is
the step of one arrival. Whether the packet comes in its turn (`sequenced_next`), is known already (`sequenced_known`)
or too early (`sequenced_early`), the invariant holds again at some `E'`, what the packets from `E` on hold up to `E'`
has been delivered, and the answer names `E'`.
-/
import VisionMixer.Proofs.Packet.Id
import VisionMixer.Proofs.Session.Quiet

namespace VisionMixer

open PacketId (wrap)

/-- what a payload holds; an empty or malformed one holds nothing -/
def contents? (payload : Bytes) : Option (List Record) :=
  if payload = [] then none else (Record.split payload).toOption

/-- what the packets from one number up to another hold, in order -/
def stream (P : Nat → Bytes) (first stop : Nat) : List (List Record) :=
  (List.range' first (stop - first)).filterMap fun n => contents? (P n)

theorem stream_self (P : Nat → Bytes) (n : Nat) : stream P n n = [] := by
  simp [stream]

theorem stream_append (P : Nat → Bytes) {a b c : Nat} (hab : a ≤ b) (hbc : b ≤ c) :
    stream P a b ++ stream P b c = stream P a c := by
  obtain ⟨i, rfl⟩ := Nat.exists_eq_add_of_le hab
  obtain ⟨j, rfl⟩ := Nat.exists_eq_add_of_le hbc
  have h : a + i + j - a = i + j := by omega
  rw [stream, stream, stream, ← List.filterMap_append, Nat.add_sub_cancel_left, Nat.add_sub_cancel_left, h,
    List.range'_append_1]

theorem stream_succ (P : Nat → Bytes) (n : Nat) : stream P n (n + 1) = (contents? (P n)).toList := by
  rw [stream, Nat.add_sub_cancel_left, List.range'_one, List.filterMap_cons]
  cases contents? (P n) <;> rfl

namespace Session

theorem deliveries_delivery (payload : Bytes) : deliveries (delivery payload) = (contents? payload).toList := by
  unfold delivery contents?
  split
  · rfl
  · cases Record.split payload <;> rfl

theorem no_transmit_delivery (payload : Bytes) (d : Bytes) : .transmit d ∉ delivery payload := by
  unfold delivery
  split
  · simp
  · split <;> simp

/-- a payload that fits into a datagram -/
def Fits (payload : Bytes) : Prop := Header.size + payload.length ≤ Header.maxLength

/-- what is held back came in packets with numbers from `first` up to `stop` -/
def Holds (P : Nat → Bytes) (first stop : Nat) (m : Session) : Prop :=
  ∀ id payload, m.reorder.get? id = some payload →
    ∃ n, first ≤ n ∧ n < stop ∧ id = wrap n ∧ payload = P n ∧ Fits payload

/-- after what was held has had its turn: the counter stands at `E`, and `E` is not held -/
structure Drained (P : Nat → Bytes) (first stop E : Nat) (m : Session) (s : Step) : Prop where
  session : s.1 = { m with nextRemoteId := wrap E, reorder := s.1.reorder }
  reached : first ≤ E ∧ (first < E → E ≤ stop)
  held : Holds P (E + 1) stop s.1
  fitted : ∀ n, first ≤ n → n < E → Fits (P n)
  told : deliveries s.2 = stream P first E
  mute : ∀ d, .transmit d ∉ s.2

/-- a packet that is not held ends the draining -/
theorem drained_still {P : Nat → Bytes} {E stop : Nat} {m : Session} (hn : m.nextRemoteId = wrap E)
    (hh : Holds P E stop m) (hg : m.reorder.get? (wrap E) = none) : Drained P E stop E m m.still where
  session := by rw [← hn]; rfl
  reached := ⟨le_refl E, fun h => absurd h (lt_irrefl E)⟩
  held := by
    intro id payload h
    obtain ⟨n, h1, h2, rfl, rfl, hfit⟩ := hh id payload h
    have hne : n ≠ E := by
      rintro rfl
      rw [show m.still.1 = m from rfl, hg] at h
      cases h
    exact ⟨n, by omega, h2, rfl, rfl, hfit⟩
  fitted := fun n h1 h2 => absurd h2 (by omega)
  told := (stream_self P E).symm
  mute := by simp [still]

/-- held packets have their turn one after another; the numbers held lie within one round of ids, so an id names one -/
theorem drained_drain {P : Nat → Bytes} {stop : Nat} (fuel : Nat) {E : Nat} {m : Session}
    (hf : m.reorder.size ≤ fuel) (hn : m.nextRemoteId = wrap E) (hh : Holds P E stop m) (hs : stop ≤ E + 0x8000) :
    ∃ E', Drained P E stop E' m (drain fuel m) := by
  induction fuel generalizing E m with
  | zero => exact ⟨E, drained_still hn hh (IdMap.get?_of_size_eq_zero (by omega) _)⟩
  | succ fuel ih =>
    cases hg : m.reorder.get? (wrap E) with
    | none =>
      have hd : drain (fuel + 1) m = m.still := by simp only [drain, hn, hg]
      rw [hd]
      exact ⟨E, drained_still hn hh hg⟩
    | some payload =>
      obtain ⟨n, h1, h2, h3, rfl, hfit⟩ := hh _ _ hg
      have hne : n = E := by
        have := PacketId.wrap_inj h3
        omega
      subst hne
      set m1 : Session := { m with reorder := m.reorder.erase (wrap n), nextRemoteId := wrap (n + 1) } with hm1
      have hd : drain (fuel + 1) m = Step.next (m1, delivery (P n)) (drain fuel) := by
        simp only [drain, hn, hg, take, PacketId.next_wrap, hm1]
      have hsize : m1.reorder.size ≤ fuel := by
        have := IdMap.size_erase_lt hg
        simp only [hm1]
        omega
      have hh1 : Holds P (n + 1) stop m1 := by
        intro id q h
        have h' : (m.reorder.erase (wrap n)).get? id = some q := h
        rw [IdMap.get?_erase] at h'
        split_ifs at h' with hid
        obtain ⟨k, h1, h2, rfl, rfl, hfit⟩ := hh _ _ h'
        refine ⟨k, ?_, h2, rfl, rfl, hfit⟩
        rcases Nat.lt_or_ge n k with hlt | hge
        · exact hlt
        · exact absurd (by rw [show k = n by omega]) hid
      obtain ⟨E', hE⟩ := ih hsize rfl hh1 (by omega)
      obtain ⟨hle, hstop⟩ := hE.reached
      rw [hd]
      refine ⟨E', hE.session, ⟨by omega, fun _ => ?_⟩, hE.held, fun k h1 h2 => ?_, ?_, fun d h => ?_⟩
      · rcases Nat.lt_or_ge (n + 1) E' with h | h
        · exact hstop h
        · omega
      · rcases Nat.lt_or_ge n k with h | h
        · exact hE.fitted k h h2
        · rw [show k = n by omega]
          exact hfit
      · rw [Step.next, deliveries_append, deliveries_delivery, ← stream_succ, hE.told, stream_append P (Nat.le_succ n) hle]
      · rcases List.mem_append.1 h with h | h
        · exact no_transmit_delivery _ d h
        · exact hE.mute d h

/-- the session is in step with a device that sends `P`: packet `E` is the next one, and what is held back belongs to
numbers after it, inside the window -/
structure InSequence (P : Nat → Bytes) (E : Nat) (m : Session) : Prop where
  window : m.config.reorderWindow < 0x4000
  positive : 0 < E
  next : m.nextRemoteId = wrap E
  held : Holds P (E + 1) (E + m.config.reorderWindow + 1) m
  data : SendsData m

theorem inSequence_initial (P : Nat → Bytes) {config : SessionConfig} (h : config.reorderWindow < 0x4000)
    (helloId : UInt16) : InSequence P 1 (initial config helloId) where
  window := h
  positive := Nat.one_pos
  next := rfl
  held := by
    intro id payload h
    cases h
  data := by
    intro p hp
    cases hp

theorem InSequence.quiet {P : Nat → Bytes} {E : Nat} {m : Session} {s : Step} (h : InSequence P E m) (hq : Quiet m s)
    (hd : SendsData s.1) : InSequence P E s.1 where
  window := by rw [hq.config]; exact h.window
  positive := h.positive
  next := hq.next.trans h.next
  held := by
    intro id payload hg
    rw [hq.config]
    exact h.held id payload (hq.held id payload hg)
  data := hd

/-- the expected packet is never among those held back -/
theorem InSequence.not_held {P : Nat → Bytes} {E : Nat} {m : Session} (h : InSequence P E m) :
    m.reorder.get? (wrap E) = none := by
  cases hg : m.reorder.get? (wrap E) with
  | none => rfl
  | some payload =>
    obtain ⟨n, h1, h2, h3, -, -⟩ := h.held _ _ hg
    have := PacketId.wrap_inj h3
    have := h.window
    omega

/-- an answer to packets of a device whose next packet is `E`: all before it have come, or `E` is missed -/
def IsReply (sessionId : UInt16) (E : Nat) (q : Packet) : Prop :=
  q = .ack sessionId (wrap (E - 1)) ∨ q = .retransmitRequest sessionId (wrap E)

/-- every acknowledgement among the datagrams is of the packets before `E`, every request to resend starts with `E` -/
def Answers (E : Nat) (actions : List SessionAction) : Prop :=
  ∀ d p, .transmit d ∈ actions → Packet.decode d = .ok p →
    (p.header.flags.contains .ackReply = true → p.header.ackId = wrap (E - 1)) ∧
      (p.header.flags.contains .retransmitRequest = true → p.header.resendFrom = wrap E)

theorem Unanswering.answers {actions : List SessionAction} (h : Unanswering actions) (E : Nat) : Answers E actions := by
  intro d p hd hp
  obtain ⟨ha, hr⟩ := h d p hd hp
  exact ⟨fun hc => absurd (ha.symm.trans hc) (by simp), fun hc => absurd (hr.symm.trans hc) (by simp)⟩

theorem Answers.append {E : Nat} {a b : List SessionAction} (ha : Answers E a) (hb : Answers E b) :
    Answers E (a ++ b) := by
  intro d p h
  rcases List.mem_append.1 h with h | h
  · exact ha d p h
  · exact hb d p h

theorem IsReply.answers {sessionId : UInt16} {E : Nat} {q : Packet} (h : IsReply sessionId E q) :
    Answers E (sending q) := by
  intro d p hd hp
  obtain ⟨hflags, hack, hresend⟩ := decode_of_mem_sending hd hp
  rw [hflags, hack, hresend]
  rcases h with rfl | rfl
  · have hc : PacketFlags.contains ⟨PacketFlags.ackReply.bits &&& 0x1F⟩ .retransmitRequest = false := by decide
    exact ⟨fun _ => rfl, fun h => absurd (hc.symm.trans h) (by simp)⟩
  · have hc : PacketFlags.contains ⟨PacketFlags.retransmitRequest.bits &&& 0x1F⟩ .ackReply = false := by decide
    exact ⟨fun h => absurd (hc.symm.trans h) (by simp), fun _ => rfl⟩

/-- what follows the arrival of packet `n` when `E` is expected: the session has moved on to `E'`, told what the packets
on the way hold, and answered -/
structure Sequenced (P : Nat → Bytes) (E n E' : Nat) (m : Session) (s : Step) : Prop where
  session : s.1 = { m with nextRemoteId := s.1.nextRemoteId, reorder := s.1.reorder }
  inSequence : InSequence P E' s.1
  moved : if n = E then E < E' ∧ E' ≤ E + 0x4000 else E' = E
  fitted : ∀ k, E ≤ k → k < E' → Fits (P k)
  told : deliveries s.2 = stream P E E'
  replied : ∀ sessionId, m.sessionId = some sessionId →
    ∃ front q, IsReply sessionId E' q ∧ (∀ d, .transmit d ∉ front) ∧ s.2 = front ++ sending q

theorem acknowledgement_eq {m : Session} {E : Nat} {sessionId : UInt16} (hn : m.nextRemoteId = wrap E) (hE : 0 < E)
    (hs : m.sessionId = some sessionId) : m.acknowledgement = sending (.ack sessionId (wrap (E - 1))) := by
  obtain ⟨k, rfl⟩ := Nat.exists_eq_succ_of_ne_zero (Nat.pos_iff_ne_zero.1 hE)
  simp only [acknowledgement, hs, hn, Nat.succ_eq_add_one, PacketId.previous_wrap_succ, Nat.add_sub_cancel]

theorem complaint_eq {m : Session} {E : Nat} {sessionId : UInt16} (hn : m.nextRemoteId = wrap E)
    (hs : m.sessionId = some sessionId) : m.complaint = sending (.retransmitRequest sessionId (wrap E)) := by
  simp only [complaint, hs, hn]

theorem deliveries_acknowledgement (m : Session) : deliveries m.acknowledgement = [] := by
  unfold acknowledgement
  split
  · exact deliveries_sending _
  · rfl

theorem deliveries_complaint (m : Session) : deliveries m.complaint = [] := by
  unfold complaint
  split
  · exact deliveries_sending _
  · rfl

/-- the packet whose turn it is: it is taken, and with it all that waited for it -/
theorem sequenced_next {P : Nat → Bytes} {E : Nat} {m : Session} (h : InSequence P E m) (hfit : Fits (P E)) :
    ∃ E', Sequenced P E E E' m (m.sequence (wrap E) (P E)) := by
  have hw := h.window
  set m1 : Session := { m with nextRemoteId := wrap (E + 1) } with hm1
  obtain ⟨E', hE⟩ := drained_drain m.reorder.size (m := m1) (le_refl _) rfl h.held (by omega)
  obtain ⟨hle, hstop⟩ := hE.reached
  set s := drain m.reorder.size m1 with hs
  have hseq : m.sequence (wrap E) (P E) = (s.1, (delivery (P E) ++ s.2) ++ s.1.acknowledgement) := by
    simp only [sequence, h.next, take, PacketId.next_wrap, Step.next, if_true]
    rfl
  have hnext : s.1.nextRemoteId = wrap E' := by rw [hE.session]
  have hE' : E' ≤ E + 0x4000 := by
    rcases Nat.lt_or_ge (E + 1) E' with hlt | hge
    · have := hstop hlt
      omega
    · omega
  refine ⟨E', ?_⟩
  rw [hseq]
  refine ⟨?_, ⟨?_, by omega, hnext, ?_, ?_⟩, ?_, fun k h1 h2 => ?_, ?_, ?_⟩
  · rw [hE.session]
  · rw [hE.session]
    exact hw
  · intro id payload hg
    obtain ⟨n, h1, h2, h3, h4, h5⟩ := hE.held id payload hg
    refine ⟨n, h1, ?_, h3, h4, h5⟩
    rw [hE.session]
    show n < E' + m.config.reorderWindow + 1
    omega
  · rw [hE.session]
    exact h.data
  · rw [if_pos rfl]
    exact ⟨hle, hE'⟩
  · rcases Nat.lt_or_ge E k with h | h
    · exact hE.fitted k h h2
    · rw [show k = E by omega]
      exact hfit
  · simp only [deliveries_append, deliveries_delivery, deliveries_acknowledgement, List.append_nil, ← stream_succ, hE.told,
      stream_append P (Nat.le_succ E) hle]
  · intro sessionId hid
    have hsid : s.1.sessionId = some sessionId := by
      rw [hE.session]
      exact hid
    refine ⟨delivery (P E) ++ s.2, _, .inl rfl, fun d hd => ?_, ?_⟩
    · rcases List.mem_append.1 hd with hd | hd
      · exact no_transmit_delivery _ d hd
      · exact hE.mute d hd
    · rw [acknowledgement_eq hnext (by omega) hsid]

/-- a packet known already is only acknowledged -/
theorem sequenced_known {P : Nat → Bytes} {E n : Nat} {m : Session} (h : InSequence P E m) (hn : n ≠ E)
    (hid : wrap n ≠ m.nextRemoteId) (hb : PacketId.isBefore (wrap n) m.nextRemoteId = true) :
    Sequenced P E n E m (m.sequence (wrap n) (P n)) := by
  have hseq : m.sequence (wrap n) (P n) = (m, m.acknowledgement) := by
    rw [sequence, if_neg hid, if_pos hb]
  rw [hseq]
  refine ⟨rfl, h, by rw [if_neg hn], fun k h1 h2 => absurd h2 (by omega), ?_, fun sessionId hs => ?_⟩
  · rw [stream_self]
    exact deliveries_acknowledgement m
  · exact ⟨[], _, .inl rfl, by simp, acknowledgement_eq h.next h.positive hs⟩

/-- a packet that comes too early is held if it is inside the window, and `E` is asked for -/
theorem sequenced_early {P : Nat → Bytes} {E n : Nat} {m : Session} (h : InSequence P E m) (hfit : Fits (P n))
    (hn : n ≠ E) (hlo : E ≤ n + 0x4000) (hhi : n ≤ E + 0x4000) (hid : wrap n ≠ m.nextRemoteId)
    (hb : ¬PacketId.isBefore (wrap n) m.nextRemoteId = true) : Sequenced P E n E m (m.sequence (wrap n) (P n)) := by
  have hseq : m.sequence (wrap n) (P n) = (m.hold (wrap n) (P n), m.complaint) := by
    rw [sequence, if_neg hid, if_neg hb]
  rw [h.next, PacketId.isBefore_wrap hlo hhi] at hb
  have hw := h.window
  have hframe : m.hold (wrap n) (P n) = { m with reorder := (m.hold (wrap n) (P n)).reorder } := by
    unfold hold
    split <;> rfl
  rw [hseq]
  refine ⟨?_, ⟨?_, h.positive, ?_, ?_, ?_⟩, by rw [if_neg hn], fun k h1 h2 => absurd h2 (by omega), ?_,
    fun sessionId hs => ?_⟩
  · dsimp only
    unfold hold
    split <;> rfl
  · rw [hframe]
    exact hw
  · rw [hframe]
    exact h.next
  · intro id payload hg
    dsimp only at hg ⊢
    rw [show (m.hold (wrap n) (P n)).config = m.config by rw [hframe]]
    unfold hold at hg
    split at hg
    · rename_i hroom
      rw [h.next] at hroom
      -- half a round behind is as far as half a round ahead, which no window reaches
      have hlt : E < n := by
        by_contra hge
        have hd : (PacketId.distance (wrap E) (wrap n)).toNat = 0x4000 := by
          rw [PacketId.toNat_distance, PacketId.toNat_wrap, PacketId.toNat_wrap]
          omega
        omega
      rw [PacketId.distance_wrap (by omega) (by omega)] at hroom
      simp only [IdMap.get?_ensure, Option.or_eq_some_iff] at hg
      rcases hg with hg | ⟨-, hg⟩
      · exact h.held id payload hg
      · split_ifs at hg with heq
        cases hg
        exact ⟨n, by omega, by omega, (Id.toNat_inj heq).symm, rfl, hfit⟩
    · exact h.held id payload hg
  · rw [hframe]
    exact h.data
  · rw [stream_self]
    exact deliveries_complaint m
  · exact ⟨[], _, .inr rfl, by simp, complaint_eq h.next hs⟩

/-- **An arrival.** The number may lie anywhere up to half the id space before or after the expected one. -/
theorem sequence_spec {P : Nat → Bytes} {E n : Nat} {m : Session} (h : InSequence P E m) (hfit : Fits (P n))
    (hlo : E ≤ n + 0x4000) (hhi : n ≤ E + 0x4000) : ∃ E', Sequenced P E n E' m (m.sequence (wrap n) (P n)) := by
  by_cases hn : n = E
  · subst hn
    exact sequenced_next h hfit
  · have hid : wrap n ≠ m.nextRemoteId := by
      rw [h.next]
      intro he
      have := PacketId.wrap_inj he
      omega
    by_cases hb : PacketId.isBefore (wrap n) m.nextRemoteId = true
    · exact ⟨E, sequenced_known h hn hid hb⟩
    · exact ⟨E, sequenced_early h hfit hn hlo hhi hid hb⟩

end Session

end VisionMixer
