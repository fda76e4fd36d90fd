/-
How long a session has waited, as its history tells.

`heard` are the instants at which a session was accepted or had a packet of its own. `Late` and `Silent` say of a history,
without a look at the clocks a session keeps, that the handshake takes too long and that nothing has been heard for too
long. One event that the session outlives moves each clock on as it should (`outlives_step`), and so does a history
(`outlives_run`), so that the clocks are due just then (`late_iff`, `silent_iff`). No packet in flight has been sent again
more often than may be (`within_step`).
-/
import VisionMixer.Proofs.Session.Deadline

namespace VisionMixer

/-- the instant of a request to start a session -/
def connected? (e : SessionEvent × Instant) : Option Instant :=
  match e.1 with
  | .connect => some e.2
  | _ => none

namespace Phase

/-- one phase leads to another short of the end -/
def LeadsTo (p q : Phase) : Prop := q = p ∨ p = .connecting ∧ q = .handshaking ∨ p = .handshaking ∧ q = .live

/-- the phases after one and up to another -/
def between (p q : Phase) : List Phase := all.filter fun r => p.rank < r.rank ∧ r.rank ≤ q.rank

theorem passed_append_between {p q r : Phase} (h : LeadsTo p q) (hr : q.rank ≤ r.rank) :
    passed p q ++ between q r = between p r := by
  rcases h with rfl | ⟨rfl, rfl⟩ | ⟨rfl, rfl⟩
  · rw [passed, if_pos rfl, List.nil_append]
  · cases r <;> first | rfl | exact absurd hr (by decide)
  · cases r <;> first | rfl | exact absurd hr (by decide)

theorem between_self (p : Phase) : between p p = [] := by cases p <;> rfl

theorem rank_le_of_leadsTo {p q : Phase} (h : LeadsTo p q) : p.rank ≤ q.rank := by
  rcases h with rfl | ⟨rfl, rfl⟩ | ⟨rfl, rfl⟩ <;> first | exact Nat.le_refl _ | decide

theorem eq_connecting_of_le {p : Phase} (h : p.rank ≤ Phase.connecting.rank) : p = .connecting := by
  cases p <;> first | rfl | exact absurd h (by decide)

theorem live_mem_between_iff {q : Phase} (hq : q.isTerminal = false) : .live ∈ between .connecting q ↔ q = .live := by
  cases q <;> first | decide | cases hq

theorem handshaking_mem_between {q : Phase} (h : q ≠ .connecting) : .handshaking ∈ between .connecting q := by
  cases q <;> first | decide | exact absurd rfl h

end Phase

namespace Session

/-- an event brings a word from the device: it accepts the session, or sends a packet that is not of the hello exchange
and of this session -/
def hears (m : Session) (e : SessionEvent × Instant) : Bool :=
  match e.1 with
  | .datagram bytes =>
    match Packet.decode bytes with
    | .error _ => false
    | .ok p =>
      if p.header.flags.contains .hello then m.phase = .connecting ∧ p.connectCode? = some .accepted
      else (m.recognize? p.header).isSome
  | _ => false

/-- the instants of a history at which there was a word from the device -/
def heard (m : Session) : List (SessionEvent × Instant) → List Instant
  | [] => []
  | e :: events => (if m.hears e then [e.2] else []) ++ (m.step e).1.heard events

/-- the session was started some time ago and has never been live -/
def Late (m : Session) (events : List (SessionEvent × Instant)) (now : Instant) : Prop :=
  (∃ start, (.connect, start) ∈ events ∧ start + m.config.handshakeTimeout ≤ now) ∧ .live ∉ phases (m.run events).2

/-- the session was accepted, and the last word from the device is some time ago -/
def Silent (m : Session) (events : List (SessionEvent × Instant)) (now : Instant) : Prop :=
  .handshaking ∈ phases (m.run events).2 ∧
    ∃ last, IsGreatest {u | u ∈ m.heard events} last ∧ last + m.config.keepaliveTimeout ≤ now

variable {m : Session} {e : SessionEvent × Instant} {now : Instant}

/-! ### One event -/

/-- what an event that a session outlives makes of its phase and of the instants it remembers -/
structure Outlives (m : Session) (e : SessionEvent × Instant) (m' : Session) : Prop where
  phase : m.phase.LeadsTo m'.phase
  startedAt : m'.startedAt = m.startedAt.or (connected? e)
  lastReceived : m'.lastReceived = if m.hears e then some e.2 else m.lastReceived
  accepted : m.hears e = true → Unmet m → m'.phase ≠ .connecting

theorem Outlives.of_unheard {m' : Session} (h : m.hears e = false) (hp : m.phase.LeadsTo m'.phase)
    (hs : m'.startedAt = m.startedAt.or (connected? e)) (hl : m'.lastReceived = m.lastReceived) : Outlives m e m' where
  phase := hp
  startedAt := hs
  lastReceived := by rw [hl, h]; rfl
  accepted := fun hh => absurd (hh.symm.trans h) (by decide)

theorem outlives_of_same {m' : Session} (he : ∀ bytes, e.1 ≠ .datagram bytes) (hc : e.1 ≠ .connect)
    (hp : m.phase.LeadsTo m'.phase) (hs : m'.startedAt = m.startedAt) (hl : m'.lastReceived = m.lastReceived) :
    Outlives m e m' := by
  have hconnected : connected? e = none := by
    unfold connected?
    split
    · rename_i h
      exact absurd h hc
    · rfl
  have hhears : m.hears e = false := by
    unfold hears
    split
    · rename_i h
      exact absurd h (he _)
    · rfl
  exact .of_unheard hhears hp (by rw [hs, hconnected, Option.or_none]) hl

theorem outlives_connect (m : Session) (now : Instant) : Outlives m (.connect, now) (m.step (.connect, now)).1 := by
  unfold step handle connect
  cases hs : m.startedAt with
  | none => exact .of_unheard rfl (.inl rfl) (by rw [hs]; rfl) rfl
  | some _ => exact .of_unheard rfl (.inl rfl) (by rw [hs]; exact hs) rfl

theorem outlives_receiveHello {p : Packet} {bytes : Bytes} (hd : Packet.decode bytes = .ok p)
    (hf : p.header.flags.contains .hello = true) (hp : m.phase.isTerminal = false)
    (hp' : (m.receiveHello p now).1.phase.isTerminal = false) :
    Outlives m (.datagram bytes, now) (m.receiveHello p now).1 := by
  have hhears : m.hears (.datagram bytes, now) = decide (m.phase = .connecting ∧ p.connectCode? = some .accepted) := by
    simp only [hears, hd, hf, if_true]
  have hover {reason : EndReason} (h : (m.terminate reason).1.phase.isTerminal = false) : False := by
    rw [(ends_terminate hp reason).phase] at h
    cases h
  unfold receiveHello at hp' ⊢
  split at hp'
  case h_1 hphase hcode =>
    exact ⟨.inr (.inl ⟨hphase, rfl⟩), (Option.or_none).symm, by simp [hhears, hphase, hcode], fun _ _ => by simp⟩
  case h_2 hphase hcode => exact .of_unheard (by simp [hhears, hphase]) (.inl rfl) (Option.or_none).symm rfl
  case h_3 => exact (hover hp').elim
  case h_4 => exact (hover hp').elim
  case h_5 _ hunaccepted _ _ =>
    rw [decide_eq_false fun h => hunaccepted h.1 h.2] at hhears
    exact .of_unheard hhears (.inl rfl) (Option.or_none).symm rfl

theorem outlives_datagram {bytes : Bytes} (hp : m.phase.isTerminal = false)
    (hp' : (m.receive bytes now).1.phase.isTerminal = false) :
    Outlives m (.datagram bytes, now) (m.receive bytes now).1 := by
  cases reading hp bytes now with
  | @hello p hd hf hr =>
    rw [hr] at hp' ⊢
    exact outlives_receiveHello hd hf hp hp'
  | @own p m' hd hf hm hr =>
    obtain ⟨next, reorder, hframe⟩ := m'.receiveData_frame p now
    have hhears : m.hears (.datagram bytes, now) = true := by
      simp only [hears, hd, hf, hm, Bool.false_eq_true, if_false, Option.isSome_some]
    rw [hr, hframe, recognize_eq hm]
    refine ⟨.inl rfl, (Option.or_none).symm, by rw [hhears]; rfl, fun _ hunmet hconnecting => ?_⟩
    -- a session that is not accepted knows no id and takes no packet for its own
    rw [recognize?, hunmet hconnecting, show m.phase = .connecting from hconnecting] at hm
    cases hm
  | dropped hd hr =>
    have hhears : m.hears (.datagram bytes, now) = false := by
      unfold hears
      dsimp only
      split
      · rfl
      · rename_i p hp
        obtain ⟨hf, hm⟩ := hd p hp
        rw [hf, hm]
        rfl
    rw [hr]
    exact .of_unheard hhears (.inl rfl) (Option.or_none).symm rfl

/-- **One event.** An event that a session outlives leaves it in its phase or leads to the next, starts it if nothing has
before, and is remembered as the last word from the device just when it is one. -/
theorem outlives_step (hp : m.phase.isTerminal = false) (hp' : (m.step e).1.phase.isTerminal = false) :
    Outlives m e (m.step e).1 := by
  have hover {reason : EndReason} (ht : m.trigger? e = some reason) : False := by
    rw [((turn m e).ended hp ht).phase] at hp'
    cases hp'
  obtain ⟨e, now⟩ := e
  cases e with
  | connect => exact outlives_connect m now
  | datagram bytes => exact outlives_datagram hp hp'
  | tick =>
    have ht : m.trigger? (.tick, now) = none := Option.eq_none_iff_forall_ne_some.2 fun _ h => hover h
    show Outlives m _ (m.tick now).1
    rw [tick_session hp ht]
    exact outlives_of_same (by simp) (by simp) (.inl rfl) rfl rfl
  | send payload =>
    cases h : m.handle (.send payload) now with
    | error error =>
      rw [(step_error h).2]
      exact outlives_of_same (by simp) (by simp) (.inl rfl) rfl rfl
    | ok r =>
      obtain ⟨sessionId, datagram, -, -, -, rfl⟩ := send_eq h
      rw [(step_ok h).2]
      exact outlives_of_same (by simp) (by simp) (.inl rfl) rfl rfl
  | initComplete =>
    show Outlives m _ m.initComplete.1
    unfold initComplete enter
    split_ifs with hphase
    · exact outlives_of_same (by simp) (by simp) (.inl rfl) rfl rfl
    · exact outlives_of_same (by simp) (by simp) (.inr (.inr ⟨hphase, rfl⟩)) rfl rfl
    · exact outlives_of_same (by simp) (by simp) (.inl rfl) rfl rfl
  | close => exact (hover rfl).elim
  | socketFailed message => exact (hover rfl).elim

/-! ### A history -/

/-- an ended session stays as ended as it is -/
theorem ended_run (hp : m.phase.isTerminal = true) (events : List (SessionEvent × Instant)) :
    (m.run events).1.phase.isTerminal = true := by
  refine run_keeps (P := fun m => m.phase.isTerminal = true) (fun m e h => ?_) hp events
  rw [(frame_of_ended h e).2]
  exact h

/-- what a history that a session outlives makes of its phase and of the instants it remembers -/
structure Outlived (m : Session) (events : List (SessionEvent × Instant)) : Prop where
  later : m.phase.rank ≤ (m.run events).1.phase.rank
  phases : phases (m.run events).2 = m.phase.between (m.run events).1.phase
  startedAt : (m.run events).1.startedAt = m.startedAt.or (events.findSome? connected?)
  lastReceived : (m.run events).1.lastReceived = (m.heard events).getLast?.or m.lastReceived
  accepted : m.heard events ≠ [] → (m.run events).1.phase ≠ .connecting

theorem outlived_cons (h : Outlives m e (m.step e).1) {events : List (SessionEvent × Instant)} (hu : Unmet m)
    (hrest : Outlived (m.step e).1 events) : Outlived m (e :: events) where
  later := by
    rw [run_cons]
    exact Nat.le_trans (Phase.rank_le_of_leadsTo h.phase) hrest.later
  phases := by
    have hlater := hrest.later
    rw [run_cons, Step.next, phases_append, (turn m e).phases_eq, hrest.phases]
    exact Phase.passed_append_between h.phase hlater
  startedAt := by
    rw [run_cons, Step.next, hrest.startedAt, h.startedAt, List.findSome?_cons, Option.or_assoc]
    cases connected? e <;> rfl
  lastReceived := by
    rw [run_cons, Step.next, hrest.lastReceived, h.lastReceived, heard]
    cases m.hears e with
    | false => rfl
    | true => simp [List.getLast?_cons]
  accepted := by
    intro hheard hconnecting
    have hlast : ((m.step e).1.run events).1.phase = .connecting := by rwa [run_cons] at hconnecting
    have hlater := hrest.later
    rw [hlast] at hlater
    have hfirst := Phase.eq_connecting_of_le hlater
    cases hh : m.hears e with
    | true => exact h.accepted hh hu hfirst
    | false =>
      rw [heard, hh] at hheard
      exact hrest.accepted hheard hlast

/-- **A history.** A session that has lasted through a history has gone through the phases up to its own one by one, was
started at the first request and had its last word from the device at the last instant heard. -/
theorem outlives_run (hu : Unmet m) {events : List (SessionEvent × Instant)}
    (hp : (m.run events).1.phase.isTerminal = false) : Outlived m events := by
  induction events generalizing m with
  | nil => exact ⟨Nat.le_refl _, (Phase.between_self _).symm, (Option.or_none).symm, rfl, fun h => absurd rfl h⟩
  | cons e events ih =>
    have hlasts (m : Session) (events : List (SessionEvent × Instant))
        (h : (m.run events).1.phase.isTerminal = false) : m.phase.isTerminal = false := by
      cases hm : m.phase.isTerminal with
      | false => rfl
      | true => exact absurd (h.symm.trans (ended_run hm events)) (by decide)
    have hp' : ((m.step e).1.run events).1.phase.isTerminal = false := by rwa [run_cons] at hp
    exact outlived_cons (outlives_step (hlasts m _ hp) (hlasts _ _ hp')) hu (ih ((turn m e).unmet hu) hp')

theorem retransmits_of_posted {p : InFlight} (h : m.posted? e = some p) : p.retransmits = 0 := by
  unfold posted? at h
  split at h
  · obtain ⟨id, -, rfl⟩ := Option.map_eq_some_iff.1 h
    rfl
  · cases h

/-- no packet in flight has been sent again more often than may be -/
def Within (m : Session) : Prop := ∀ p ∈ m.inFlight, p.retransmits ≤ m.config.maxRetransmits

theorem retransmits_revise_le (hm : Within m) (ht : m.trigger? e = none) {p : InFlight} (hp : p ∈ m.inFlight) :
    (m.revise e p).retransmits ≤ m.config.maxRetransmits := by
  unfold revise
  split_ifs with hresends
  · split
    case h_1 he =>
      -- a packet that is overdue at a tick has an attempt left, or the session would end
      obtain ⟨e, now⟩ := e
      cases he
      obtain ⟨-, -, hexhausted⟩ := trigger?_tick_eq_none_iff.1 ht
      simp only [isExhausted, List.any_eq_true, Bool.and_eq_true, decide_eq_true_eq, not_exists, not_and,
        Nat.not_le] at hexhausted
      exact hexhausted p hp (resends_tick.1 hresends)
    case h_2 => exact hm p hp
  · exact hm p hp

theorem within_step (hm : Within m) (e : SessionEvent × Instant) : Within (m.step e).1 := by
  unfold Within
  rw [config_step]
  refine forall_inFlight_step hm (fun ht p hp => retransmits_revise_le hm ht hp) fun p hp => ?_
  rw [retransmits_of_posted hp]
  exact Nat.zero_le _

theorem within_run (config : SessionConfig) (helloId : UInt16) (events : List (SessionEvent × Instant)) :
    Within ((initial config helloId).run events).1 :=
  run_keeps (P := Within) (fun _ e h => within_step h e) (by simp [Within, initial]) events

/-! ### Too late, too silent -/

/-- the first request to start is the earliest -/
theorem exists_connected {events : List (SessionEvent × Instant)} (hmono : (events.map (·.2)).Pairwise (· ≤ ·))
    {start : Instant} (h : (.connect, start) ∈ events) : ∃ first ∈ events.findSome? connected?, first ≤ start := by
  induction events with
  | nil => cases h
  | cons e events ih =>
    obtain ⟨hfirst, hrest⟩ := List.pairwise_cons.1 hmono
    rw [List.findSome?_cons]
    cases hc : connected? e with
    | some first =>
      refine ⟨first, rfl, ?_⟩
      have hinstant : first = e.2 := by
        unfold connected? at hc
        split at hc <;> cases hc
        rfl
      rcases List.mem_cons.1 h with rfl | h
      · exact Nat.le_of_eq hinstant
      · rw [hinstant]
        exact hfirst start (List.mem_map_of_mem h)
    | none =>
      rcases List.mem_cons.1 h with rfl | h
      · cases hc
      · exact ih hrest h

theorem mem_of_connected {events : List (SessionEvent × Instant)} {first : Instant}
    (h : first ∈ events.findSome? connected?) : (.connect, first) ∈ events := by
  obtain ⟨⟨e, now⟩, hmem, hc⟩ := List.exists_of_findSome?_eq_some h
  unfold connected? at hc
  split at hc
  · rename_i he
    cases he
    cases hc
    exact hmem
  · cases hc

/-- words from the device are heard as they come -/
theorem heard_sublist (m : Session) (events : List (SessionEvent × Instant)) :
    (m.heard events).Sublist (events.map (·.2)) := by
  induction events generalizing m with
  | nil => exact List.Sublist.slnil
  | cons e events ih =>
    rw [heard]
    split_ifs
    · exact (ih _).cons_cons _
    · exact (ih _).cons _

/-- the last of instants in order is the latest -/
theorem isGreatest_of_getLast? {instants : List Instant} (hmono : instants.Pairwise (· ≤ ·)) {last : Instant}
    (h : instants.getLast? = some last) : IsGreatest {u | u ∈ instants} last := by
  obtain ⟨before, rfl⟩ := List.getLast?_eq_some_iff.1 h
  refine ⟨List.mem_append_right _ (List.mem_singleton_self _), fun u hu => ?_⟩
  rcases List.mem_append.1 hu with hu | hu
  · exact (List.pairwise_append.1 hmono).2.2 u hu last (List.mem_singleton_self _)
  · exact Nat.le_of_eq (List.mem_singleton.1 hu)

theorem isOpening_iff (hp : m.phase.isTerminal = false) : m.isOpening = true ↔ m.phase ≠ .live := by
  unfold isOpening
  generalize m.phase = p at hp
  cases p <;> first | decide | cases hp

section

variable {config : SessionConfig} {helloId : UInt16} {events : List (SessionEvent × Instant)}
  (hp : ((initial config helloId).run events).1.phase.isTerminal = false)

include hp

theorem outlived_initial : Outlived (initial config helloId) events := outlives_run (fun _ => rfl) hp

theorem late_iff (hmono : (events.map (·.2)).Pairwise (· ≤ ·)) :
    isDue now ((initial config helloId).run events).1.handshakeDeadline = true ↔
      Late (initial config helloId) events now := by
  have h := outlived_initial hp
  have hstarted : ((initial config helloId).run events).1.startedAt = events.findSome? connected? := h.startedAt
  have hphases : phases ((initial config helloId).run events).2 = Phase.connecting.between _ := h.phases
  have hlive : .live ∉ phases ((initial config helloId).run events).2 ↔
      ((initial config helloId).run events).1.isOpening = true := by
    rw [hphases, Phase.live_mem_between_iff hp, isOpening_iff hp]
  rw [Late, hlive, isDue_iff, handshakeDeadline, hstarted, config_run]
  constructor
  · rintro ⟨d, hd, hdue⟩
    split_ifs at hd with hopening
    · obtain ⟨first, hfirst, rfl⟩ := Option.map_eq_some_iff.1 hd
      exact ⟨⟨first, mem_of_connected hfirst, hdue⟩, hopening⟩
    · cases hd
  · rintro ⟨⟨start, hmem, hdue⟩, hopening⟩
    obtain ⟨first, hfirst, hle⟩ := exists_connected hmono hmem
    rw [if_pos hopening]
    exact ⟨_, Option.map_eq_some_iff.2 ⟨first, hfirst, rfl⟩, Nat.le_trans (Nat.add_le_add_right hle _) hdue⟩

theorem silent_iff (hmono : (events.map (·.2)).Pairwise (· ≤ ·)) :
    isDue now ((initial config helloId).run events).1.keepaliveDeadline = true ↔
      Silent (initial config helloId) events now := by
  have h := outlived_initial hp
  have hlast : ((initial config helloId).run events).1.lastReceived =
      ((initial config helloId).heard events).getLast? := h.lastReceived.trans Option.or_none
  have hphases : phases ((initial config helloId).run events).2 = Phase.connecting.between _ := h.phases
  have hgreatest {last : Instant} (hl : ((initial config helloId).heard events).getLast? = some last) :=
    isGreatest_of_getLast? (hmono.sublist (heard_sublist _ events)) hl
  rw [Silent, isDue_iff, keepaliveDeadline, hlast, config_run]
  constructor
  · rintro ⟨d, hd, hdue⟩
    obtain ⟨last, hl, rfl⟩ := Option.map_eq_some_iff.1 hd
    have hheard : (initial config helloId).heard events ≠ [] := List.ne_nil_of_mem (List.mem_of_getLast? hl)
    rw [hphases]
    exact ⟨Phase.handshaking_mem_between (h.accepted hheard), last, hgreatest hl, hdue⟩
  · rintro ⟨-, last, hl, hdue⟩
    obtain ⟨last', hl'⟩ := Option.ne_none_iff_exists'.1 (mt List.getLast?_eq_none_iff.1 (List.ne_nil_of_mem hl.1))
    cases hl.unique (hgreatest hl')
    exact ⟨_, Option.map_eq_some_iff.2 ⟨last, hl', rfl⟩, hdue⟩

end

end Session

end VisionMixer
