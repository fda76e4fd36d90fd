/-
The deadline of a session and what a tick does agree.

A tick before the deadline does nothing (`tick_before`). A tick at the deadline or later does something, and what is due
next lies after it (`tick_after`): what was due has ended the session or is put off by a positive interval. Every packet
in flight was sent once and so can be sent again (`Mailable`). `wakes_on_time`: whoever sleeps until the deadline misses
nothing, and never has to wake twice at one instant.
-/
import VisionMixer.Proofs.Session.Flight

namespace VisionMixer.Session

/-- every packet in flight fits into a datagram -/
def Mailable (m : Session) : Prop := ∀ p ∈ m.inFlight, Fits p.packet.payload

variable {m : Session} {now : Instant}

/-- a packet is only taken into flight once it has been written -/
theorem fits_of_posted {e : SessionEvent × Instant} {p : InFlight} (h : m.posted? e = some p) :
    Fits p.packet.payload := by
  unfold posted? at h
  split at h
  case h_2 => cases h
  case h_1 payload sessionId he hs =>
    obtain ⟨id, hid, rfl⟩ := Option.map_eq_some_iff.1 h
    cases hr : m.handle e.1 e.2 with
    | error error =>
      rw [(step_error hr).1] at hid
      cases hid
    | ok r =>
      rw [he] at hr
      obtain ⟨sessionId', datagram, -, -, hd, -⟩ := send_eq hr
      have hfits := (encode_ok_iff (.data sessionId' m.nextLocalId payload)).1 ⟨datagram, hd⟩
      exact hfits

theorem mailable_step (hm : Mailable m) (e : SessionEvent × Instant) : Mailable (m.step e).1 := by
  refine forall_inFlight_step hm (fun _ p hp => ?_) fun p => fits_of_posted
  rw [revise_packet]
  exact hm p hp

theorem mailable_run (config : SessionConfig) (helloId : UInt16) (events : List (SessionEvent × Instant)) :
    Mailable ((initial config helloId).run events).1 :=
  run_keeps (P := Mailable) (fun _ e h => mailable_step h e) (by simp [Mailable, initial]) events

theorem sending_ne_nil {p : Packet} (h : Fits p.payload) : sending p ≠ [] := by
  obtain ⟨datagram, hd⟩ := (encode_ok_iff p).2 h
  rw [sending, hd]
  exact List.cons_ne_nil _ _

/-! ### What is due -/

theorem isDue_iff {at? : Option Instant} : isDue now at? = true ↔ ∃ d ∈ at?, d ≤ now := by
  cases at? <;> simp [isDue]

theorem mem_deadlines {d : Instant} :
    d ∈ m.deadlines ↔ d ∈ m.handshakeDeadline ∨ d ∈ m.helloDeadline ∨ d ∈ m.keepaliveDeadline ∨
      ∃ p ∈ m.inFlight, m.resendDeadline p = d := by
  simp only [deadlines, List.mem_append, Option.mem_toList, Option.mem_def, List.mem_map, or_assoc]

/-- the deadline is the earliest of all instants at which something is due -/
theorem deadline_eq_some_iff (hp : m.phase.isTerminal = false) {d : Instant} :
    m.deadline = some d ↔ d ∈ m.deadlines ∧ ∀ d' ∈ m.deadlines, d ≤ d' := by
  rw [deadline, if_neg (by rw [hp]; decide)]
  exact List.min?_eq_some_iff

/-- before the deadline nothing is due -/
theorem lt_deadlines (hp : m.phase.isTerminal = false) (h : ∀ d, m.deadline = some d → now < d) :
    ∀ d ∈ m.deadlines, now < d := by
  intro d hd
  obtain ⟨first, hfirst⟩ := Option.ne_none_iff_exists'.1 (mt List.min?_eq_none_iff.1 (List.ne_nil_of_mem hd))
  have hdeadline : m.deadline = some first := by rw [deadline, if_neg (by rw [hp]; decide), hfirst]
  exact Nat.lt_of_lt_of_le (h first hdeadline) (((deadline_eq_some_iff hp).1 hdeadline).2 d hd)

/-- when nothing is due, no packet is overdue and no reason to end has come -/
theorem not_due_of_lt (h : ∀ d ∈ m.deadlines, now < d) :
    m.trigger? (.tick, now) = none ∧ ¬isDue now m.helloDeadline = true ∧ ∀ p ∈ m.inFlight, ¬m.resendDeadline p ≤ now := by
  have hnot {at? : Option Instant} (hd : ∀ d ∈ at?, d ∈ m.deadlines) : ¬isDue now at? = true := by
    intro hdue
    obtain ⟨d, hat, hle⟩ := isDue_iff.1 hdue
    exact absurd hle (Nat.not_le.2 (h d (hd d hat)))
  have hflight : ∀ p ∈ m.inFlight, ¬m.resendDeadline p ≤ now := fun p hp =>
    Nat.not_le.2 (h _ (mem_deadlines.2 (.inr (.inr (.inr ⟨p, hp, rfl⟩)))))
  have hexhausted : ¬m.isExhausted now = true := by
    simp only [isExhausted, List.any_eq_true, Bool.and_eq_true, decide_eq_true_eq, not_exists, not_and]
    exact fun p hp hdue => absurd hdue (hflight p hp)
  refine ⟨trigger?_tick_eq_none_iff.2 ⟨?_, ?_, hexhausted⟩, ?_, hflight⟩
  · exact hnot fun d hd => mem_deadlines.2 (.inl hd)
  · exact hnot fun d hd => mem_deadlines.2 (.inr (.inr (.inl hd)))
  · exact hnot fun d hd => mem_deadlines.2 (.inr (.inl hd))

/-- packets that are not overdue are left alone -/
theorem resendDue_of_not_due (h : ∀ p ∈ m.inFlight, ¬m.resendDeadline p ≤ now) : m.resendDue now = m.still := by
  have hmap : (m.inFlight.map fun p => if decide (m.resendDeadline p ≤ now) = true then
      { p with retransmits := p.retransmits + 1, sentAt := now } else p) = m.inFlight := by
    rw [List.map_congr_left fun p hp => if_neg (by simpa using h p hp), List.map_id']
  have hfilter : (m.inFlight.filter fun p => m.resendDeadline p ≤ now) = [] :=
    List.filter_eq_nil_iff.2 fun p hp => by simpa using h p hp
  rw [resendDue, hmap, hfilter]
  rfl

/-- **Before the deadline** a tick does nothing at all. -/
theorem tick_before (hp : m.phase.isTerminal = false) (h : ∀ d ∈ m.deadlines, now < d) : m.tick now = m.still := by
  obtain ⟨ht, hhello, hflight⟩ := not_due_of_lt h
  rw [tick_of_lasting hp ht, greetAgain, if_neg hhello]
  exact next_of_still (resendDue_of_not_due hflight)

theorem lt_of_not_isDue {at? : Option Instant} (h : ¬isDue now at? = true) {d : Instant} (hd : d ∈ at?) : now < d :=
  Nat.lt_of_not_le fun hle => h (isDue_iff.2 ⟨d, hd, hle⟩)

/-- a tick that ends nothing puts off all that was due -/
theorem deadlines_after (hp : m.phase.isTerminal = false) (ht : m.trigger? (.tick, now) = none)
    (hhello : 0 < m.config.helloInterval) (hresend : 0 < m.config.retransmitInterval) :
    ∀ d ∈ (m.tick now).1.deadlines, now < d := by
  obtain ⟨hlate, hsilent, -⟩ := trigger?_tick_eq_none_iff.1 ht
  intro d hd
  rw [tick_session hp ht, mem_deadlines] at hd
  rcases hd with hd | hd | hd | ⟨p, hflight, rfl⟩
  · exact lt_of_not_isDue hlate hd
  · unfold helloDeadline at hd
    dsimp only at hd
    split_ifs at hd with hconnecting hdue
    · cases hd
      exact Nat.lt_add_of_pos_right hhello
    · exact lt_of_not_isDue hdue hd
    · cases hd
  · exact lt_of_not_isDue hsilent hd
  · obtain ⟨q, -, rfl⟩ := List.mem_map.1 hflight
    show now < m.resendDeadline (m.revise (.tick, now) q)
    simp only [revise]
    split_ifs with hdue
    · exact Nat.lt_add_of_pos_right hresend
    · exact Nat.lt_of_not_le (mt resends_tick.2 hdue)

/-- it leaves a session with a deadline if there was one -/
theorem deadlines_ne_nil_after (hp : m.phase.isTerminal = false) (ht : m.trigger? (.tick, now) = none)
    (h : m.deadlines ≠ []) : (m.tick now).1.deadlines ≠ [] := by
  obtain ⟨d, hd⟩ := List.exists_mem_of_ne_nil _ h
  suffices hmem : ∃ d', d' ∈ (m.tick now).1.deadlines by
    obtain ⟨d', hd'⟩ := hmem
    exact List.ne_nil_of_mem hd'
  rw [tick_session hp ht]
  simp only [mem_deadlines] at hd ⊢
  rcases hd with hd | hd | hd | ⟨p, hflight, rfl⟩
  · exact ⟨d, .inl hd⟩
  · unfold helloDeadline at hd ⊢
    split_ifs at hd with hconnecting
    · dsimp only
      rw [if_pos hconnecting]
      split_ifs
      · exact ⟨_, .inr (.inl rfl)⟩
      · exact ⟨d, .inr (.inl hd)⟩
    · cases hd
  · exact ⟨d, .inr (.inr (.inl hd))⟩
  · exact ⟨_, .inr (.inr (.inr ⟨_, List.mem_map_of_mem hflight, rfl⟩))⟩

/-- when something is due, a tick has something to say -/
theorem tick_actions_ne_nil (hp : m.phase.isTerminal = false) (hm : Mailable m) {d : Instant} (hd : d ∈ m.deadlines)
    (hdue : d ≤ now) : (m.tick now).2 ≠ [] := by
  cases ht : m.trigger? (.tick, now) with
  | some reason =>
    obtain ⟨sent, -, hactions⟩ := ((turn m (.tick, now)).ended hp ht).actions
    have hactions : (m.tick now).2 = sent ++ m.lastActions reason := hactions
    rw [hactions]
    exact List.append_ne_nil_of_right_ne_nil _ (List.cons_ne_nil _ _)
  | none =>
    obtain ⟨hlate, hsilent, -⟩ := trigger?_tick_eq_none_iff.1 ht
    rw [tick_of_lasting hp ht, Step.next]
    rcases mem_deadlines.1 hd with hd | hd | hd | ⟨p, hflight, rfl⟩
    · exact absurd (isDue_iff.2 ⟨d, hd, hdue⟩) hlate
    · -- hello is said again
      rw [greetAgain, if_pos (isDue_iff.2 ⟨d, hd, hdue⟩)]
      exact List.append_ne_nil_of_left_ne_nil (List.cons_ne_nil _ _) _
    · exact absurd (isDue_iff.2 ⟨d, hd, hdue⟩) hsilent
    · -- the packet is sent again
      obtain ⟨nextHello, sent, -, hg⟩ := greetAgain_eq m now
      rw [hg, resendDue_eq]
      refine List.append_ne_nil_of_right_ne_nil _ ?_
      obtain ⟨a, ha⟩ := List.exists_mem_of_ne_nil _ (sending_ne_nil (p := p.packet.resent) (hm p hflight))
      have hdue : p ∈ m.inFlight.filter fun p => m.resendDeadline p ≤ now :=
        List.mem_filter.2 ⟨hflight, decide_eq_true hdue⟩
      exact List.ne_nil_of_mem (List.mem_flatMap.2 ⟨_, List.mem_map_of_mem hdue, ha⟩)

theorem intervals_of_validate {config : SessionConfig} (h : config.validate = .ok ()) :
    0 < config.helloInterval ∧ 0 < config.retransmitInterval := by
  unfold SessionConfig.validate at h
  split_ifs at h with hresend hhello
  exact ⟨Nat.pos_of_ne_zero hhello, Nat.pos_of_ne_zero hresend⟩

/-- **After the deadline** a tick says something, and what is due next lies after it. -/
theorem tick_after (hp : m.phase.isTerminal = false) (hm : Mailable m) (hc : m.config.validate = .ok ()) {d : Instant}
    (hd : m.deadline = some d) (hdue : d ≤ now) :
    (m.tick now).2 ≠ [] ∧
      ((m.tick now).1.phase.isTerminal = true ∨ ∃ d', (m.tick now).1.deadline = some d' ∧ now < d') := by
  obtain ⟨hmem, -⟩ := (deadline_eq_some_iff hp).1 hd
  refine ⟨tick_actions_ne_nil hp hm hmem hdue, ?_⟩
  cases ht : m.trigger? (.tick, now) with
  | some reason =>
    have hended : (m.tick now).1.phase = .disconnected := ((turn m (.tick, now)).ended hp ht).phase
    exact .inl (by rw [hended]; rfl)
  | none =>
    obtain ⟨hhello, hresend⟩ := intervals_of_validate hc
    have hp' : (m.tick now).1.phase.isTerminal = false := by
      rw [tick_session hp ht]
      exact hp
    have hne := deadlines_ne_nil_after hp ht (List.ne_nil_of_mem hmem)
    obtain ⟨d', hd'⟩ := Option.ne_none_iff_exists'.1 (mt List.min?_eq_none_iff.1 hne)
    refine .inr ⟨d', ?_, deadlines_after hp ht hhello hresend d' (List.min?_mem hd')⟩
    rw [deadline, if_neg (by rw [hp']; decide), hd']

/-- **Waking on time.** A session with usable settings lasts. A tick before its deadline, or without one, changes nothing
and asks for nothing. A tick at the deadline or later asks for something, and then the session has ended or its deadline
lies after that tick. -/
theorem wakes_on_time {config : SessionConfig} (hc : config.validate = .ok ()) (helloId : UInt16)
    (events : List (SessionEvent × Instant)) (hp : ((initial config helloId).run events).1.phase.isTerminal = false)
    (now : Instant) :
    let m := ((initial config helloId).run events).1
    ((∀ d, m.deadline = some d → now < d) → m.step (.tick, now) = m.still) ∧
      ∀ d, m.deadline = some d → d ≤ now →
        (m.step (.tick, now)).2 ≠ [] ∧ ((m.step (.tick, now)).1.phase.isTerminal = true ∨
          ∃ d', (m.step (.tick, now)).1.deadline = some d' ∧ now < d') := by
  have hconfig := config_run (initial config helloId) events
  have hmail := mailable_run config helloId events
  refine ⟨fun h => tick_before hp (lt_deadlines hp h), fun d hd hdue => tick_after hp hmail ?_ hd hdue⟩
  rw [hconfig]
  exact hc

/-- one of the packets sent waits for its acknowledgement, and for nothing else so soon -/
theorem wakes_on_time_talk :
    let m := ((initial default 5).run talk).1
    m.deadline = some 200000006 ∧ m.step (.tick, 200000005) = m.still ∧
      ((m.step (.tick, 200000006)).1.phase.isTerminal = true ∨
        ∃ d, (m.step (.tick, 200000006)).1.deadline = some d ∧ 200000006 < d) := by
  have hdeadline : ((initial default 5).run talk).1.deadline = some 200000006 := by decide
  have hvalid : (default : SessionConfig).validate = .ok () := rfl
  obtain ⟨hearly, -⟩ := wakes_on_time hvalid 5 talk (by decide) 200000005
  obtain ⟨-, hlate⟩ := wakes_on_time hvalid 5 talk (by decide) 200000006
  refine ⟨hdeadline, hearly fun d hd => ?_, (hlate _ hdeadline (Nat.le_refl _)).2⟩
  cases hdeadline.symm.trans hd
  decide

end VisionMixer.Session
