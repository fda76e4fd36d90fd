/-
How far ahead a session looks.

Moments and durations have no end here, where a clock has one, and a configuration may hold any duration that can be
written down. What is said of deadlines therefore assumes a clock that reaches as far as they do. That is not far: a
session adds one of its durations to the instant of an event, and adds nothing to such a sum (`Past`, one step lemma).
So every deadline it has lies at most the longest of its durations past the latest event (`deadlines_le`), and a clock
that reaches that far never runs over.
-/
import VisionMixer.Proofs.Session.Timeout

namespace VisionMixer

/-- the longest duration that is added to an instant -/
def SessionConfig.longest (c : SessionConfig) : Duration :=
  max (max c.handshakeTimeout c.helloInterval) (max c.keepaliveTimeout c.retransmitInterval)

namespace Session

/-- what a session remembers of time is past, and its next hello is one interval ahead at most -/
structure Past (last : Instant) (m : Session) : Prop where
  started : ∀ t ∈ m.startedAt, t ≤ last
  received : ∀ t ∈ m.lastReceived, t ≤ last
  sent : ∀ p ∈ m.inFlight, p.sentAt ≤ last
  hello : ∀ t ∈ m.nextHello, t ≤ last + m.config.helloInterval

variable {m : Session} {e : SessionEvent × Instant} {last : Instant}

/-- an ended session says no more hello -/
theorem nextHello_terminate (m : Session) (reason : EndReason) {t : Instant}
    (ht : t ∈ (m.terminate reason).1.nextHello) : t ∈ m.nextHello := by
  unfold terminate at ht
  split_ifs at ht
  · exact ht
  · cases ht

/-- a hello is put off by one interval from the event, or not at all -/
theorem nextHello_step (hp : m.phase.isTerminal = false) (hp' : (m.step e).1.phase.isTerminal = false) {t : Instant}
    (ht : t ∈ (m.step e).1.nextHello) : t ∈ m.nextHello ∨ t = e.2 + m.config.helloInterval := by
  obtain ⟨e, now⟩ := e
  have hover {reason : EndReason} (h : m.trigger? (e, now) = some reason) : False := by
    rw [((turn m (e, now)).ended hp h).phase] at hp'
    cases hp'
  cases e with
  | connect =>
    unfold step handle connect at ht
    cases hs : m.startedAt with
    | some _ =>
      rw [hs] at ht
      exact .inl ht
    | none =>
      rw [hs] at ht
      exact .inr (Option.mem_some.1 ht).symm
  | datagram bytes =>
    have hstep : m.step (.datagram bytes, now) = m.receive bytes now := rfl
    rw [hstep] at ht
    cases reading hp bytes now with
    | @hello p _ _ hr =>
      rw [hr, receiveHello] at ht
      split at ht
      · cases ht
      · exact .inl ht
      · exact .inl (nextHello_terminate m _ ht)
      · exact .inl (nextHello_terminate m _ ht)
      · exact .inl ht
    | @own p m' _ _ hm hr =>
      obtain ⟨next, reorder, hframe⟩ := m'.receiveData_frame p now
      rw [hr, hframe, recognize_eq hm] at ht
      exact .inl ht
    | dropped _ hr =>
      rw [hr] at ht
      exact .inl ht
  | tick =>
    have hnone : m.trigger? (.tick, now) = none := Option.eq_none_iff_forall_ne_some.2 fun _ h => hover h
    have hstep : m.step (.tick, now) = m.tick now := rfl
    rw [hstep, tick_session hp hnone] at ht
    dsimp only at ht
    split_ifs at ht
    · exact .inr (Option.mem_some.1 ht).symm
    · exact .inl ht
  | send payload =>
    cases h : m.handle (.send payload) now with
    | error error =>
      rw [(step_error (e := (.send payload, now)) h).2] at ht
      exact .inl ht
    | ok r =>
      obtain ⟨sessionId, datagram, -, -, -, rfl⟩ := send_eq h
      rw [(step_ok (e := (.send payload, now)) h).2] at ht
      exact .inl ht
  | initComplete =>
    have hstep : m.step (.initComplete, now) = m.initComplete := rfl
    rw [hstep] at ht
    unfold initComplete enter at ht
    split_ifs at ht <;> exact .inl ht
  | close => exact (hover rfl).elim
  | socketFailed message => exact (hover rfl).elim

/-- **One event** that a session outlives adds its own instant to what is remembered. -/
theorem past_step (h : Past last m) (hlast : e.2 ≤ last) (hp : m.phase.isTerminal = false)
    (hp' : (m.step e).1.phase.isTerminal = false) : Past last (m.step e).1 := by
  have hlives := outlives_step hp hp'
  refine ⟨fun t ht => ?_, fun t ht => ?_, ?_, fun t ht => ?_⟩
  · rw [hlives.startedAt] at ht
    rcases Option.or_eq_some_iff.1 ht with ht | ⟨-, ht⟩
    · exact h.started t ht
    · unfold connected? at ht
      split at ht
      · exact (Option.mem_some.1 ht) ▸ hlast
      · cases ht
  · rw [hlives.lastReceived] at ht
    split_ifs at ht
    · exact (Option.mem_some.1 ht) ▸ hlast
    · exact h.received t ht
  · refine forall_inFlight_step h.sent (fun _ p hp => ?_) fun p hposted =>
      (sentAt_of_posted? hposted).trans_le hlast
    rw [sentAt_revise]
    split_ifs
    · exact hlast
    · exact h.sent p hp
  · rw [config_step]
    rcases nextHello_step hp hp' ht with ht | rfl
    · exact h.hello t ht
    · exact Nat.add_le_add_right hlast _

theorem past_run (config : SessionConfig) (helloId : UInt16) {events : List (SessionEvent × Instant)}
    (hlast : ∀ e ∈ events, e.2 ≤ last) (hp : ((initial config helloId).run events).1.phase.isTerminal = false) :
    Past last ((initial config helloId).run events).1 := by
  induction events using List.reverseRecOn with
  | nil => exact ⟨nofun, nofun, nofun, nofun⟩
  | append_singleton events e ih =>
    obtain ⟨hbefore, hnow⟩ := List.forall_mem_append.1 hlast
    simp only [run_append, Step.next, run_singleton] at hp ⊢
    -- what lasts now has lasted so far
    have hlasting : ((initial config helloId).run events).1.phase.isTerminal = false := by
      by_contra hended
      rw [Bool.not_eq_false] at hended
      rw [(frame_of_ended hended e).2, hended] at hp
      cases hp
    exact past_step (ih hbefore hlasting) (hnow e List.mem_cons_self) hlasting hp

/-- **Deadlines are near.** While a session lasts, none of its deadlines lies further past the latest event than its
longest duration. -/
theorem deadlines_le (config : SessionConfig) (helloId : UInt16) {events : List (SessionEvent × Instant)}
    (hlast : ∀ e ∈ events, e.2 ≤ last) (hp : ((initial config helloId).run events).1.phase.isTerminal = false) :
    ∀ d ∈ ((initial config helloId).run events).1.deadlines, d ≤ last + config.longest := by
  have hpast := past_run config helloId hlast hp
  have hconfig : ((initial config helloId).run events).1.config = config := config_run _ events
  generalize ((initial config helloId).run events).1 = m at hpast hconfig
  have hlongest : config.handshakeTimeout ≤ config.longest ∧ config.helloInterval ≤ config.longest ∧
      config.keepaliveTimeout ≤ config.longest ∧ config.retransmitInterval ≤ config.longest := by
    simp only [SessionConfig.longest, le_max_iff, le_refl, true_or, or_true, and_self]
  obtain ⟨hhandshake, hhello, hkeepalive, hresend⟩ := hlongest
  intro d hd
  rcases mem_deadlines.1 hd with hd | hd | hd | ⟨p, hp, rfl⟩
  · unfold handshakeDeadline at hd
    split_ifs at hd
    · obtain ⟨t, ht, rfl⟩ := Option.map_eq_some_iff.1 hd
      exact Nat.add_le_add (hpast.started t ht) (hconfig ▸ hhandshake)
    · cases hd
  · unfold helloDeadline at hd
    split_ifs at hd
    · have hput := hpast.hello d hd
      rw [hconfig] at hput
      exact hput.trans (Nat.add_le_add_left hhello _)
    · cases hd
  · obtain ⟨t, ht, rfl⟩ := Option.map_eq_some_iff.1 hd
    exact Nat.add_le_add (hpast.received t ht) (hconfig ▸ hkeepalive)
  · exact Nat.add_le_add (hpast.sent p hp) (hconfig ▸ hresend)

end Session

end VisionMixer
