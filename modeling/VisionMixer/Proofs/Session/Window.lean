/-
What is held back, and for how long.

`ahead` counts the steps from the expected id forward to another. In every state that a session with usable settings
reaches, what it holds back is 1, …, `reorderWindow` steps ahead (`Windowed`), so that there are at most `reorderWindow`
such packets, and if there are so many then they are all of these (`contains_of_full`). That is why no packet inside the
window is ever turned away for want of room (`hold_of_near`). `Drains` follows the turns of held packets, and `MovesOn`
says without them what the expected packet has set free.

`Arrives` is what one packet makes of what is held, wherever it lies, and `Rests` what any other event does.
`holds_the_window` puts them together for every history: what is held, where it came from, and what can become of it.
-/
import VisionMixer.Proofs.IdMap
import VisionMixer.Proofs.Session.Flight

namespace VisionMixer

open PacketId (wrap)

namespace PacketId

theorem lt_space_iff (id : PacketId) : id < space ↔ id.toNat < 0x8000 := UInt16.lt_iff_toNat_lt

theorem wrap_lt_space (n : Nat) : wrap n < space := by
  rw [lt_space_iff, toNat_wrap]
  omega

theorem wrap_toNat {id : PacketId} (h : id < space) : wrap id.toNat = id := by
  rw [lt_space_iff] at h
  rw [← UInt16.toNat_inj, toNat_wrap, Nat.mod_eq_of_lt h]

theorem distance_lt (a b : PacketId) : (distance a b).toNat < 0x8000 := by
  rw [toNat_distance]
  omega

/-- an id is as many steps on as its distance says -/
theorem wrap_add_distance (n : Nat) {id : PacketId} (h : id < space) : wrap (n + (distance (wrap n) id).toNat) = id := by
  rw [lt_space_iff] at h
  rw [← UInt16.toNat_inj, toNat_wrap, toNat_distance, toNat_wrap]
  omega

end PacketId

namespace Session

/-! ### Steps ahead -/

/-- how many steps an id is ahead of the expected one -/
def ahead (m : Session) (id : PacketId) : Nat := (PacketId.distance m.nextRemoteId id).toNat

variable {m : Session} {E d : Nat} {id : PacketId} {payload : Bytes}

theorem ahead_wrap (hn : m.nextRemoteId = wrap E) (hd : d < 0x8000) : m.ahead (wrap (E + d)) = d := by
  rw [ahead, hn, PacketId.distance_wrap (Nat.le_add_right E d) (by omega), Nat.add_sub_cancel_left]

theorem wrap_add_ahead (hn : m.nextRemoteId = wrap E) (hid : id < PacketId.space) : wrap (E + m.ahead id) = id := by
  rw [ahead, hn]
  exact PacketId.wrap_add_distance E hid

theorem ahead_inj (hn : m.nextRemoteId < PacketId.space) {a b : PacketId} (ha : a < PacketId.space)
    (hb : b < PacketId.space) (h : m.ahead a = m.ahead b) : a = b := by
  have hnext := (PacketId.wrap_toNat hn).symm
  rw [← wrap_add_ahead hnext ha, h, wrap_add_ahead hnext hb]

/-! ### The window -/

/-- what is held back lies inside the window, which is less than half the id space -/
structure Windowed (m : Session) : Prop where
  window : m.config.reorderWindow < 0x4000
  next : m.nextRemoteId < PacketId.space
  inside : ∀ id payload, m.reorder.get? id = some payload → id < PacketId.space
  near : ∀ id payload, m.reorder.get? id = some payload → 1 ≤ m.ahead id ∧ m.ahead id ≤ m.config.reorderWindow

/-- the ids of the window -/
def InWindow (m : Session) (id : PacketId) : Prop :=
  id < PacketId.space ∧ 1 ≤ m.ahead id ∧ m.ahead id ≤ m.config.reorderWindow

/-- different ids of the window are different numbers of steps ahead, of which there are as many as the window is wide -/
theorem length_le_window (hn : m.nextRemoteId < PacketId.space) {ids : List PacketId} (hnodup : ids.Nodup)
    (h : ∀ id ∈ ids, m.InWindow id) : ids.length ≤ m.config.reorderWindow := by
  have hsteps : (ids.map m.ahead).Nodup :=
    hnodup.map_on fun a ha b hb heq => ahead_inj hn (h a ha).1 (h b hb).1 heq
  have hrange : ids.map m.ahead ⊆ List.range' 1 m.config.reorderWindow := by
    intro d hd
    obtain ⟨id, hid, rfl⟩ := List.mem_map.1 hd
    obtain ⟨-, hlo, hhi⟩ := h id hid
    rw [List.mem_range'_1]
    omega
  calc ids.length = (ids.map m.ahead).length := (List.length_map _).symm
    _ ≤ (List.range' 1 m.config.reorderWindow).length := (hsteps.subperm hrange).length_le
    _ = m.config.reorderWindow := List.length_range'

namespace Windowed

theorem inWindow_of_mem (h : Windowed m) (hid : id ∈ m.reorder.keys) : m.InWindow id := by
  obtain ⟨payload, hp⟩ := IdMap.mem_keys.1 hid
  exact ⟨h.inside id payload hp, h.near id payload hp⟩

theorem size_le (h : Windowed m) : m.reorder.size ≤ m.config.reorderWindow := by
  have hlength := length_le_window h.next m.reorder.nodup_keys fun _ => h.inWindow_of_mem
  rwa [IdMap.keys, List.length_map] at hlength

/-- **No room is left only for what is there.** As many packets as the window is wide are all of the window. -/
theorem contains_of_full (h : Windowed m) (hfull : m.config.reorderWindow ≤ m.reorder.size) (hid : m.InWindow id) :
    m.reorder.contains id = true := by
  by_contra hnew
  have hnot : id ∉ m.reorder.keys := fun hmem => by
    obtain ⟨payload, hp⟩ := IdMap.mem_keys.1 hmem
    exact hnew (by rw [IdMap.contains, hp]; rfl)
  have hlength := length_le_window h.next (List.nodup_cons.2 ⟨hnot, m.reorder.nodup_keys⟩) fun j hj => by
    rcases List.mem_cons.1 hj with rfl | hj
    · exact hid
    · exact h.inWindow_of_mem hj
  rw [List.length_cons, IdMap.keys, List.length_map] at hlength
  exact absurd (Nat.lt_of_lt_of_le hlength hfull) (Nat.lt_irrefl _)

end Windowed

/-! ### An arrival that is not yet expected -/

/-- a packet inside the window is held, unless its id is held already -/
theorem hold_of_near (h : Windowed m) (hid : m.InWindow id) (payload : Bytes) :
    m.hold id payload = { m with reorder := m.reorder.ensure id payload } := by
  by_cases hroom : m.reorder.size < m.config.reorderWindow
  · exact if_pos ⟨hid.2.2, hroom⟩
  · have hthere := h.contains_of_full (Nat.not_lt.1 hroom) hid
    rw [hold, if_neg fun hh => hroom hh.2, IdMap.ensure, if_pos hthere]

theorem hold_of_far (hfar : m.config.reorderWindow < m.ahead id) (payload : Bytes) : m.hold id payload = m :=
  if_neg fun hh => Nat.not_lt.2 hh.1 hfar

theorem ne_next_of_ahead (hpos : 1 ≤ m.ahead id) : id ≠ m.nextRemoteId := by
  rintro rfl
  rw [ahead, PacketId.toNat_distance] at hpos
  have := m.nextRemoteId.toNat_lt
  omega

/-- an id inside the window does not count as one that has been -/
theorem not_isBefore_of_near (h : Windowed m) (hid : m.InWindow id) : ¬PacketId.isBefore id m.nextRemoteId = true := by
  obtain ⟨hinside, -, hhi⟩ := hid
  have hw := h.window
  obtain ⟨E, hnext⟩ : ∃ E, m.nextRemoteId = wrap E := ⟨_, (PacketId.wrap_toNat h.next).symm⟩
  obtain ⟨d, hd, rfl⟩ : ∃ d, m.ahead id = d ∧ wrap (E + d) = id := ⟨_, rfl, wrap_add_ahead hnext hinside⟩
  rw [hnext, PacketId.isBefore_wrap (by omega) (by omega)]
  omega

theorem sequence_of_near (h : Windowed m) (hid : m.InWindow id) (payload : Bytes) :
    m.sequence id payload = ({ m with reorder := m.reorder.ensure id payload }, m.complaint) := by
  rw [sequence, if_neg (ne_next_of_ahead hid.2.1), if_neg (not_isBefore_of_near h hid), hold_of_near h hid]

/-- a packet further ahead than the window reaches, or one that has been, is not kept -/
theorem sequence_of_far (hfar : m.config.reorderWindow < m.ahead id) (payload : Bytes) :
    (m.sequence id payload).1 = m := by
  rw [sequence, if_neg (ne_next_of_ahead (Nat.succ_le_of_lt (Nat.zero_lt_of_lt hfar))), hold_of_far hfar]
  split_ifs <;> rfl

/-! ### The expected arrival -/

/-- the session after `count` held packets, from number `E` on, have had their turn -/
structure Drains (E count : Nat) (m m' : Session) : Prop where
  session : m' = { m with nextRemoteId := wrap (E + count), reorder := m'.reorder }
  stop : m'.reorder.get? (wrap (E + count)) = none
  passed : ∀ i < count, m.reorder.contains (wrap (E + i)) = true
  taken : ∀ i < count, m'.reorder.get? (wrap (E + i)) = none
  kept : ∀ id, (∀ i < count, id ≠ wrap (E + i)) → m'.reorder.get? id = m.reorder.get? id

/-- nothing has its turn if the expected packet is not held -/
theorem drains_still (hn : m.nextRemoteId = wrap E) (hg : m.reorder.get? (wrap E) = none) : Drains E 0 m m where
  session := by rw [Nat.add_zero, ← hn]
  stop := hg
  passed := fun i hi => absurd hi (Nat.not_lt_zero i)
  taken := fun i hi => absurd hi (Nat.not_lt_zero i)
  kept := fun _ _ => rfl

/-- one held packet has its turn, and then those behind it -/
theorem Drains.cons {count : Nat} {m' : Session} (hg : m.reorder.get? (wrap E) = some payload)
    (h : Drains (E + 1) count
      { m with reorder := m.reorder.erase (wrap E), nextRemoteId := wrap (E + 1) } m') : Drains E (count + 1) m m' := by
  have hshift : E + 1 + count = E + (count + 1) := by omega
  have herased (id : PacketId) (hne : id ≠ wrap E) : (m.reorder.erase (wrap E)).get? id = m.reorder.get? id := by
    rw [IdMap.get?_erase, if_neg fun heq => hne (Id.toNat_inj heq)]
  have hgone : m'.reorder.get? (wrap E) = none := by
    by_cases hmet : ∃ i < count, wrap E = wrap (E + 1 + i)
    · obtain ⟨i, hi, heq⟩ := hmet
      rw [heq]
      exact h.taken i hi
    · rw [h.kept (wrap E) fun i hi heq => hmet ⟨i, hi, heq⟩]
      exact (IdMap.get?_erase m.reorder (wrap E) (wrap E)).trans (if_pos rfl)
  have hsession := h.session
  have hstop := h.stop
  rw [hshift] at hsession hstop
  refine ⟨hsession, hstop, fun i hi => ?_, fun i hi => ?_, fun id hid => ?_⟩
  · cases i with
    | zero => rw [Nat.add_zero, IdMap.contains, hg]; rfl
    | succ i =>
      have hthere := h.passed i (by omega)
      rw [show E + 1 + i = E + (i + 1) by omega, IdMap.contains] at hthere
      by_cases heq : wrap (E + (i + 1)) = wrap E
      · rw [heq, IdMap.contains, hg]; rfl
      · rwa [herased _ heq] at hthere
  · cases i with
    | zero => exact hgone
    | succ i =>
      rw [show E + (i + 1) = E + 1 + i by omega]
      exact h.taken i (by omega)
  · have hne : id ≠ wrap E := hid 0 (Nat.succ_pos count)
    rw [h.kept id fun i hi heq => hid (i + 1) (by omega) (by rw [heq, show E + 1 + i = E + (i + 1) by omega])]
    exact herased id hne

/-- **The drain.** Held packets have their turn until the expected one is not held; room for as many turns as there are
held packets is enough, since each takes one out. -/
theorem drains_drain (fuel : Nat) (hf : m.reorder.size ≤ fuel) (hn : m.nextRemoteId = wrap E) :
    ∃ count, Drains E count m (drain fuel m).1 := by
  induction fuel generalizing E m with
  | zero => exact ⟨0, drains_still hn (IdMap.get?_of_size_eq_zero (by omega) _)⟩
  | succ fuel ih =>
    cases hg : m.reorder.get? (wrap E) with
    | none =>
      have hd : drain (fuel + 1) m = m.still := by simp only [drain, hn, hg]
      rw [hd]
      exact ⟨0, drains_still hn hg⟩
    | some payload =>
      have hd : (drain (fuel + 1) m).1 =
          (drain fuel { m with reorder := m.reorder.erase (wrap E), nextRemoteId := wrap (E + 1) }).1 := by
        simp only [drain, hn, hg, take, Step.next, PacketId.next_wrap]
      have hsize : (m.reorder.erase (wrap E)).size ≤ fuel := by
        have := IdMap.size_erase_lt hg
        omega
      obtain ⟨count, h⟩ := ih (E := E + 1)
        (m := { m with reorder := m.reorder.erase (wrap E), nextRemoteId := wrap (E + 1) }) hsize rfl
      rw [hd]
      exact ⟨count + 1, h.cons hg⟩

/-- what the arrival of the expected packet makes of a session: it has moved on to `passed` steps ahead, over held
packets only, and these are no longer held -/
structure MovesOn (m m' : Session) : Prop where
  config : m'.config = m.config
  next : m'.nextRemoteId < PacketId.space
  moved : 1 ≤ m.ahead m'.nextRemoteId ∧ m.ahead m'.nextRemoteId ≤ m.config.reorderWindow + 1
  stop : m'.reorder.get? m'.nextRemoteId = none
  passed : ∀ id < PacketId.space, 1 ≤ m.ahead id → m.ahead id < m.ahead m'.nextRemoteId → m.reorder.contains id = true
  held : ∀ id, m'.reorder.get? id = if m.ahead id < m.ahead m'.nextRemoteId then none else m.reorder.get? id

theorem movesOn_of_drains (h : Windowed m) (hn : m.nextRemoteId = wrap E) {count : Nat} {m' : Session}
    (hd : Drains (E + 1) count { m with nextRemoteId := wrap (E + 1) } m') : MovesOn m m' := by
  have hw := h.window
  have hcount : count ≤ m.config.reorderWindow := by
    -- the packet just behind the window is not held
    by_contra hlong
    obtain ⟨payload, hp⟩ := Option.isSome_iff_exists.1 (hd.passed m.config.reorderWindow (by omega))
    obtain ⟨-, hhi⟩ := h.near _ payload hp
    rw [Nat.add_assoc, ahead_wrap hn (by omega)] at hhi
    omega
  have hnext : m'.nextRemoteId = wrap (E + 1 + count) := by rw [hd.session]
  have hmoved : m.ahead m'.nextRemoteId = 1 + count := by
    rw [hnext, Nat.add_assoc, ahead_wrap hn (by omega)]
  refine ⟨by rw [hd.session], by rw [hnext]; exact PacketId.wrap_lt_space _, by omega, by rw [hnext]; exact hd.stop,
    fun id hid hlo hhi => ?_, fun id => ?_⟩
  · have hthere := hd.passed (m.ahead id - 1) (by omega)
    rwa [show E + 1 + (m.ahead id - 1) = E + m.ahead id by omega, wrap_add_ahead hn hid] at hthere
  · rw [hmoved]
    cases hg : m.reorder.get? id with
    | none =>
      have hgone : m'.reorder.get? id = none := by
        by_cases hmet : ∃ i < count, id = wrap (E + 1 + i)
        · obtain ⟨i, hi, rfl⟩ := hmet
          exact hd.taken i hi
        · rw [hd.kept id fun i hi heq => hmet ⟨i, hi, heq⟩]
          exact hg
      rw [hgone, ite_self]
    | some payload =>
      obtain ⟨hlo, -⟩ := h.near id payload hg
      have hid := h.inside id payload hg
      split_ifs with hbehind
      · have hgone := hd.taken (m.ahead id - 1) (by omega)
        rwa [show E + 1 + (m.ahead id - 1) = E + m.ahead id by omega, wrap_add_ahead hn hid] at hgone
      · rw [hd.kept id fun i hi heq => ?_]
        · exact hg
        · rw [heq, Nat.add_assoc, ahead_wrap hn (by omega)] at hbehind
          omega

theorem sequence_of_next (h : Windowed m) (hid : id < PacketId.space) (hzero : m.ahead id = 0) (payload : Bytes) :
    MovesOn m (m.sequence id payload).1 := by
  have hnext := (PacketId.wrap_toNat h.next).symm
  have heq : id = m.nextRemoteId := by
    have hwrap := wrap_add_ahead hnext hid
    rw [hzero, Nat.add_zero, PacketId.wrap_toNat h.next] at hwrap
    exact hwrap.symm
  have hseq : (m.sequence id payload).1 =
      (drain m.reorder.size { m with nextRemoteId := wrap (m.nextRemoteId.toNat + 1) }).1 := by
    rw [sequence, if_pos heq]
    simp only [take, Step.next]
    rw [hnext, PacketId.next_wrap, PacketId.wrap_toNat h.next]
  obtain ⟨count, hd⟩ := drains_drain (m := { m with nextRemoteId := wrap (m.nextRemoteId.toNat + 1) }) m.reorder.size
    (Nat.le_refl _) rfl
  rw [hseq]
  exact movesOn_of_drains h hnext hd

/-! ### One event -/

variable {m' : Session} {e : SessionEvent × Instant}

/-- what a packet of data makes of what is held -/
structure Arrives (m : Session) (id : PacketId) (payload : Bytes) (m' : Session) : Prop where
  near : m.InWindow id → m'.nextRemoteId = m.nextRemoteId ∧
    ∀ j, m'.reorder.get? j = if j = id then some ((m.reorder.get? id).getD payload) else m.reorder.get? j
  far : m.config.reorderWindow < m.ahead id → m'.nextRemoteId = m.nextRemoteId ∧ m'.reorder = m.reorder
  turn : m.ahead id = 0 → MovesOn m m'

/-- **An arrival.** A packet inside the window is held under its id, with the payload that is there already if one is; one
beyond the window is not; the expected one sets free those behind it. -/
theorem arrives_sequence (h : Windowed m) (hid : id < PacketId.space) (payload : Bytes) :
    Arrives m id payload (m.sequence id payload).1 where
  near := by
    intro hnear
    rw [sequence_of_near h hnear]
    refine ⟨rfl, fun j => ?_⟩
    dsimp only
    rw [IdMap.get?_ensure]
    by_cases hj : j = id
    · subst hj
      rw [if_pos rfl, if_pos rfl]
      cases m.reorder.get? j <;> rfl
    · rw [if_neg fun heq => hj (Id.toNat_inj heq).symm, if_neg hj, Option.or_none]
  far := by
    intro hfar
    rw [sequence_of_far hfar]
    exact ⟨rfl, rfl⟩
  turn := fun hzero => sequence_of_next h hid hzero payload

/-- a packet of data meets the session that has heeded what it says of the packets in flight -/
theorem arrives_step (h : Windowed m) {p : Packet} (hb : Brings m e.1 p) :
    Arrives m p.header.packetId p.payload (m.step e).1 := by
  obtain ⟨bytes, -, hd⟩ := hb.arrives
  set found : Session :=
    { m with sessionId := some p.header.sessionId, lastReceived := some e.2, inFlight := m.heeded p e.2 } with hfound
  have hstep : (m.step e).1 = (found.sequence p.header.packetId p.payload).1 := by
    rw [step_of_brings hb, note, heed_frame]
    rfl
  have harrives := arrives_sequence (m := found) ⟨h.window, h.next, h.inside, h.near⟩ (Packet.packetId_of_decode hd)
    p.payload
  rw [hstep]
  refine ⟨harrives.near, harrives.far, fun hzero => ?_⟩
  obtain ⟨hconfig, hnext, hmoved, hstop, hpassed, hheld⟩ := harrives.turn hzero
  exact ⟨hconfig, hnext, hmoved, hstop, hpassed, hheld⟩

/-- nothing has its turn, and what is held stays, unless the session has ended and holds nothing -/
structure Rests (m m' : Session) : Prop where
  config : m'.config = m.config
  next : m'.nextRemoteId = m.nextRemoteId
  held : m'.reorder = m.reorder ∨ m'.phase.isTerminal = true ∧ m'.reorder = ∅

theorem Rests.of_same (hc : m'.config = m.config) (hn : m'.nextRemoteId = m.nextRemoteId) (hr : m'.reorder = m.reorder) :
    Rests m m' := ⟨hc, hn, .inl hr⟩

theorem rests_terminate (m : Session) (reason : EndReason) : Rests m (m.terminate reason).1 := by
  unfold terminate
  split_ifs
  · exact .of_same rfl rfl rfl
  · exact ⟨rfl, rfl, .inr ⟨rfl, rfl⟩⟩

theorem rests_catchUp (m : Session) (now : Instant) : Rests m (m.catchUp now).1 := by
  unfold catchUp
  split_ifs
  · exact rests_terminate m _
  · exact rests_terminate m _
  · exact .of_same rfl rfl rfl

theorem rests_tick (m : Session) (now : Instant) : Rests m (m.tick now).1 := by
  rw [tick_eq]
  split_ifs
  · exact .of_same rfl rfl rfl
  · exact rests_terminate m _
  · obtain ⟨nextHello, sent, -, hg⟩ := greetAgain_eq m now
    obtain ⟨hconfig, hnext, hheld⟩ := rests_catchUp { m with nextHello } now
    rw [hg]
    exact ⟨hconfig, hnext, hheld⟩

theorem rests_receiveHello (m : Session) (p : Packet) (now : Instant) : Rests m (m.receiveHello p now).1 := by
  unfold receiveHello
  split
  · exact .of_same rfl rfl rfl
  · exact .of_same rfl rfl rfl
  · exact rests_terminate m _
  · exact rests_terminate m _
  · exact .of_same rfl rfl rfl

theorem rests_receive {bytes : Bytes} (hb : ∀ p, ¬Brings m (.datagram bytes) p) (now : Instant) :
    Rests m (m.receive bytes now).1 := by
  cases hp : m.phase.isTerminal with
  | true =>
    rw [receive, if_pos hp]
    exact .of_same rfl rfl rfl
  | false =>
    cases reading hp bytes now with
    | @hello p hd hf hr =>
      rw [hr]
      exact rests_receiveHello m p now
    | @own p m' hd hf hm hr =>
      -- a packet of the session's own that brings no data
      have hdata : ¬p.header.flags.contains .ackRequest = true := fun hdata =>
        hb p ⟨⟨bytes, rfl, hd⟩, hp, hf, ⟨m', hm⟩, hdata⟩
      rw [hr, receiveData_eq, recognize_eq hm, heed_frame, Step.next]
      dsimp only
      rw [if_neg hdata]
      exact .of_same rfl rfl rfl
    | dropped _ hr =>
      rw [hr]
      exact .of_same rfl rfl rfl

/-- **Any other event** leaves what is held alone, or ends the session. -/
theorem rests_step (hb : ∀ p, ¬Brings m e.1 p) : Rests m (m.step e).1 := by
  obtain ⟨e, now⟩ := e
  cases e with
  | connect =>
    unfold step handle connect
    cases m.startedAt <;> exact .of_same rfl rfl rfl
  | datagram bytes => exact rests_receive hb now
  | tick => exact rests_tick m now
  | send payload =>
    cases h : m.handle (.send payload) now with
    | error error =>
      rw [(step_error h).2]
      exact .of_same rfl rfl rfl
    | ok r =>
      obtain ⟨sessionId, datagram, -, -, -, rfl⟩ := send_eq h
      rw [(step_ok h).2]
      exact .of_same rfl rfl rfl
  | initComplete =>
    show Rests m m.initComplete.1
    unfold initComplete enter
    split_ifs <;> exact .of_same rfl rfl rfl
  | close =>
    show Rests m m.close.1
    unfold close
    split_ifs
    · exact .of_same rfl rfl rfl
    · exact rests_terminate m _
    · exact rests_terminate m _
  | socketFailed message => exact rests_terminate m _

/-! ### A history -/

/-- an id is the expected one, inside the window or further ahead -/
theorem ahead_cases (m : Session) {id : PacketId} (hid : id < PacketId.space) :
    m.ahead id = 0 ∨ m.InWindow id ∨ m.config.reorderWindow < m.ahead id := by
  unfold InWindow
  by_cases hzero : m.ahead id = 0
  · exact .inl hzero
  · by_cases hnear : m.ahead id ≤ m.config.reorderWindow
    · exact .inr (.inl ⟨hid, Nat.pos_of_ne_zero hzero, hnear⟩)
    · exact .inr (.inr (Nat.not_le.1 hnear))

/-- an id that the session has not passed is nearer by as many steps as the session has moved on -/
theorem ahead_of_moved (hn : m.nextRemoteId < PacketId.space) (hn' : m'.nextRemoteId < PacketId.space)
    (hid : id < PacketId.space) (h : m.ahead m'.nextRemoteId ≤ m.ahead id) :
    m'.ahead id = m.ahead id - m.ahead m'.nextRemoteId := by
  obtain ⟨E, hE⟩ : ∃ E, m.nextRemoteId = wrap E := ⟨_, (PacketId.wrap_toNat hn).symm⟩
  have hlt : m.ahead id < 0x8000 := PacketId.distance_lt m.nextRemoteId id
  have hd := wrap_add_ahead hE hn'
  have hk := wrap_add_ahead hE hid
  generalize m.ahead m'.nextRemoteId = d at h hd ⊢
  generalize m.ahead id = k at h hk hlt ⊢
  rw [← hk, show E + k = E + d + (k - d) by omega]
  exact ahead_wrap hd.symm (by omega)

theorem MovesOn.windowed (h : Windowed m) (hm : MovesOn m m') : Windowed m' := by
  have hstays {id : PacketId} {payload : Bytes} (hg : m'.reorder.get? id = some payload) :
      m.ahead m'.nextRemoteId ≤ m.ahead id ∧ m.reorder.get? id = some payload := by
    rw [hm.held] at hg
    split_ifs at hg with hbehind
    exact ⟨Nat.not_lt.1 hbehind, hg⟩
  refine ⟨by rw [hm.config]; exact h.window, hm.next, fun id payload hg => h.inside id payload (hstays hg).2,
    fun id payload hg => ?_⟩
  obtain ⟨hle, hbefore⟩ := hstays hg
  have hid := h.inside id payload hbefore
  have hne : m.ahead id ≠ m.ahead m'.nextRemoteId := fun heq => by
    rw [ahead_inj h.next hid hm.next heq, hm.stop] at hg
    cases hg
  obtain ⟨-, hhi⟩ := h.near id payload hbefore
  rw [ahead_of_moved h.next hm.next hid hle, hm.config]
  omega

namespace Windowed

theorem inWindow (h : Windowed m) (hg : m.reorder.get? id = some payload) : m.InWindow id :=
  ⟨h.inside id payload hg, h.near id payload hg⟩

/-- a session that has not moved on may hold whatever lies inside its window -/
theorem of_same_next (h : Windowed m) (hc : m'.config = m.config) (hn : m'.nextRemoteId = m.nextRemoteId)
    (hr : ∀ id payload, m'.reorder.get? id = some payload → m.InWindow id) : Windowed m' where
  window := by
    rw [hc]
    exact h.window
  next := by
    rw [hn]
    exact h.next
  inside := fun id payload hg => (hr id payload hg).1
  near := by
    intro id payload hg
    rw [ahead, hn, hc]
    exact (hr id payload hg).2

end Windowed

theorem Rests.windowed (h : Windowed m) (hm : Rests m m') : Windowed m' := by
  refine h.of_same_next hm.config hm.next fun id payload hg => ?_
  rcases hm.held with hheld | ⟨-, hheld⟩
  · rw [hheld] at hg
    exact h.inWindow hg
  · rw [hheld] at hg
    cases hg

theorem windowed_step (h : Windowed m) (e : SessionEvent × Instant) : Windowed (m.step e).1 := by
  by_cases hb : ∃ p, Brings m e.1 p
  · obtain ⟨p, hb⟩ := hb
    obtain ⟨bytes, -, hd⟩ := hb.arrives
    have harrives := arrives_step h hb
    have hconfig : (m.step e).1.config = m.config := config_step m e
    rcases ahead_cases m (Packet.packetId_of_decode hd) with hzero | hnear | hfar
    · exact (harrives.turn hzero).windowed h
    · obtain ⟨hnext, hheld⟩ := harrives.near hnear
      refine h.of_same_next hconfig hnext fun j payload hg => ?_
      rw [hheld] at hg
      split_ifs at hg with hj
      · rw [hj]
        exact hnear
      · exact h.inWindow hg
    · obtain ⟨hnext, hheld⟩ := harrives.far hfar
      refine h.of_same_next hconfig hnext fun j payload hg => ?_
      rw [hheld] at hg
      exact h.inWindow hg
  · exact (rests_step fun p hp => hb ⟨p, hp⟩).windowed h

theorem windowed_run (h : Windowed m) (events : List (SessionEvent × Instant)) : Windowed (m.run events).1 :=
  run_keeps (P := Windowed) (fun _ e h => windowed_step h e) h events

theorem windowed_initial {config : SessionConfig} (hc : config.validate = .ok ()) (helloId : UInt16) :
    Windowed (initial config helloId) where
  window := window_of_validate hc
  next := show (1 : UInt16) < 0x8000 by decide
  inside := fun _ _ hg => by cases hg
  near := fun _ _ hg => by cases hg

/-- what is held after an event was held before, with the same payload, or has just come -/
theorem held_step (h : Windowed m) (hg : (m.step e).1.reorder.get? id = some payload) :
    m.reorder.get? id = some payload ∨
      m.reorder.get? id = none ∧ ∃ p, Brings m e.1 p ∧ p.header.packetId = id ∧ p.payload = payload := by
  by_cases hb : ∃ p, Brings m e.1 p
  · obtain ⟨p, hb⟩ := hb
    obtain ⟨bytes, -, hd⟩ := hb.arrives
    have harrives := arrives_step h hb
    rcases ahead_cases m (Packet.packetId_of_decode hd) with hzero | hnear | hfar
    · rw [(harrives.turn hzero).held] at hg
      split_ifs at hg
      exact .inl hg
    · rw [(harrives.near hnear).2] at hg
      split_ifs at hg with hid
      · rw [← hid] at hg
        cases hthere : m.reorder.get? id with
        | none =>
          rw [hthere] at hg
          exact .inr ⟨rfl, p, hb, hid.symm, Option.some_inj.1 hg⟩
        | some first =>
          rw [hthere] at hg
          exact .inl hg
      · exact .inl hg
    · rw [(harrives.far hfar).2] at hg
      exact .inl hg
  · rcases (rests_step fun p hp => hb ⟨p, hp⟩).held with hheld | ⟨-, hheld⟩
    · rw [hheld] at hg
      exact .inl hg
    · rw [hheld] at hg
      cases hg

/-- a payload came under its id when nothing was held under it, and has been held ever since -/
structure HeldSince (m : Session) (before : List (SessionEvent × Instant)) (e : SessionEvent × Instant)
    (after : List (SessionEvent × Instant)) (id : PacketId) (payload : Bytes) : Prop where
  absent : (m.run before).1.reorder.get? id = none
  came : ∃ p, Brings (m.run before).1 e.1 p ∧ p.header.packetId = id ∧ p.payload = payload
  stayed : ∀ since rest, after = since ++ rest → (m.run (before ++ e :: since)).1.reorder.get? id = some payload

/-- **Where it came from.** What is held after a history, and was not before it, came with one of its events. -/
theorem held_run (h : Windowed m) (hnew : m.reorder.get? id = none) (events : List (SessionEvent × Instant))
    (hg : (m.run events).1.reorder.get? id = some payload) :
    ∃ before e after, events = before ++ e :: after ∧ HeldSince m before e after id payload := by
  -- from the end of the history back to the event that brought the payload
  induction events using List.reverseRecOn with
  | nil => exact absurd (hnew.symm.trans hg) (by simp)
  | append_singleton events last ih =>
    have hlast := hg
    rw [run_append, Step.next, run_singleton] at hg
    rcases held_step (windowed_run h events) hg with hheld | ⟨habsent, hcame⟩
    · obtain ⟨before, e, after, rfl, hsince⟩ := ih hheld
      refine ⟨before, e, after ++ [last], by simp, hsince.absent, hsince.came, fun since rest hafter => ?_⟩
      rcases List.eq_nil_or_concat rest with rfl | ⟨rest, final, rfl⟩
      · rw [List.append_nil] at hafter
        rw [← hafter]
        simpa using hlast
      · rw [List.concat_eq_append, ← List.append_assoc] at hafter
        exact hsince.stayed since rest (List.append_inj_left' hafter rfl)
    · refine ⟨events, last, [], rfl, habsent, hcame, fun since rest hafter => ?_⟩
      obtain ⟨rfl, rfl⟩ := List.append_eq_nil_iff.1 hafter.symm
      exact hlast

/-- **Nothing inside the window is lost.** After every history of a session with usable settings what is held lies 1, …,
`reorderWindow` steps ahead, so that it is at most `reorderWindow` packets; if it is so many, every id of the window is
among them; and each has been held since it came, when nothing was held under its id. The next packet inside the window
is held with the payload that came first; one beyond it changes nothing; and the expected one moves the session on to the
first id that is not held, over held packets alone, which are just those that are no longer held. Any other event leaves
what is held alone, unless it ends the session. -/
theorem holds_the_window {config : SessionConfig} (hc : config.validate = .ok ()) (helloId : UInt16)
    (events : List (SessionEvent × Instant)) :
    let m := ((initial config helloId).run events).1
    (∀ id payload, m.reorder.get? id = some payload → 1 ≤ m.ahead id ∧ m.ahead id ≤ config.reorderWindow) ∧
      m.reorder.size ≤ config.reorderWindow ∧
      (config.reorderWindow ≤ m.reorder.size → ∀ id, m.InWindow id → m.reorder.contains id = true) ∧
      (∀ id payload, m.reorder.get? id = some payload → ∃ before e after,
        events = before ++ e :: after ∧ HeldSince (initial config helloId) before e after id payload) ∧
      (∀ id < PacketId.space, ∀ payload, Arrives m id payload (m.sequence id payload).1) ∧
      ∀ e : SessionEvent × Instant,
        (∀ p, Brings m e.1 p → Arrives m p.header.packetId p.payload (m.step e).1) ∧
          ((∀ p, ¬Brings m e.1 p) → Rests m (m.step e).1) := by
  have hinit := windowed_initial hc helloId
  have h := windowed_run hinit events
  have hwindow : ((initial config helloId).run events).1.config.reorderWindow = config.reorderWindow := by
    rw [config_run (initial config helloId) events]
    rfl
  refine ⟨fun id payload hg => ?_, ?_, fun hfull id hid => ?_, fun id payload hg => held_run hinit rfl events hg,
    fun id hid payload => arrives_sequence h hid payload, fun e => ⟨fun p => arrives_step h, rests_step⟩⟩
  · rw [← hwindow]
    exact h.near id payload hg
  · rw [← hwindow]
    exact h.size_le
  · rw [← hwindow] at hfull
    exact h.contains_of_full hfull hid

/-- room for two packets -/
def narrow : SessionConfig := { (default : SessionConfig) with reorderWindow := 2 }

/-- the second and the third packet come before the first -/
def crowd : List (SessionEvent × Instant) := [
  (.connect, 0), (.datagram (wire (.hello 5 .accepted)), 1), (.datagram (wire (.data 9 2 (greeting 2))), 2),
  (.datagram (wire (.data 9 3 [])), 3)]

theorem holds_the_window_crowd :
    let m := ((initial narrow 5).run crowd).1
    m.reorder.size = 2 ∧ m.reorder.get? 2 = some (greeting 2) ∧ m.reorder.contains 3 = true ∧
      (m.sequence 2 []).1.reorder.get? 2 = some (greeting 2) ∧ (m.sequence 4 []).1.reorder.get? 4 = none ∧
      MovesOn m (m.sequence 1 (greeting 1)).1 ∧ (m.sequence 1 (greeting 1)).1.nextRemoteId = 4 := by
  have hvalid : narrow.validate = .ok () := rfl
  obtain ⟨-, -, hfull, -, harrives, -⟩ := holds_the_window hvalid 5 crowd
  have hsize : ((initial narrow 5).run crowd).1.reorder.size = 2 := by decide
  have htwo : ((initial narrow 5).run crowd).1.InWindow 2 := ⟨by decide, by decide, by decide⟩
  have hthree : ((initial narrow 5).run crowd).1.InWindow 3 := ⟨by decide, by decide, by decide⟩
  have hheld : ((initial narrow 5).run crowd).1.reorder.get? 2 = some (greeting 2) := by decide
  refine ⟨hsize, hheld, hfull (Nat.le_of_eq hsize.symm) 3 hthree, ?_, ?_, (harrives 1 (by decide) _).turn (by decide),
    by decide⟩
  · rw [((harrives 2 (by decide) []).near htwo).2, if_pos rfl, hheld]
    rfl
  · rw [((harrives 4 (by decide) []).far (by decide)).2]
    decide

end Session

end VisionMixer
