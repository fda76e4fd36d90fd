/-
Which timeout ends a session.

`Spent` says of a history and of an account of its wire that a send without an outcome has had all its attempts: the ticks
have sent its packet again as often as may be, and it went out last some time ago. `spent_iff` compares this with what the
session keeps, `endings_step` is how any event ends a session, and `times_out_iff` puts the reasons together: a tick ends
a session just when it is late, silent or has spent its attempts, for the first of these that holds.
-/
import VisionMixer.Proofs.Session.Account

namespace VisionMixer.Session

/-- a send has no outcome, and the ticks have sent its packet again as often as may be, which went out last some time
ago -/
def Spent (m : Session) (events : List (SessionEvent × Instant)) (account : List (List Nat)) (now : Instant) : Prop :=
  ∃ i, (outcomes (m.run events).2).length ≤ i ∧ i < (m.sentIds events).length ∧
    tries events account i = m.config.maxRetransmits ∧
    ∃ last, IsGreatest {u | u ∈ departures events account i} last ∧ last + m.config.retransmitInterval ≤ now

/-- the reason for which a session times out: the first of the three that holds -/
inductive TimesOut (m : Session) (events : List (SessionEvent × Instant)) (account : List (List Nat)) (now : Instant) :
    EndReason → Prop
  | late (h : Late m events now) : TimesOut m events account now .handshakeTimeout
  | silent (hl : ¬Late m events now) (h : Silent m events now) : TimesOut m events account now .keepaliveTimeout
  | spent (hl : ¬Late m events now) (hs : ¬Silent m events now) (h : Spent m events account now) :
    TimesOut m events account now .retransmitExhausted

variable {m : Session} {events : List (SessionEvent × Instant)} {account : List (List Nat)} {now : Instant}

section

variable {config : SessionConfig} {helloId : UInt16}

/-- the count and the instant that are kept with a packet in flight, as the account of the wire has them -/
theorem kept_run (config : SessionConfig) (helloId : UInt16) (hmono : (events.map (·.2)).Pairwise (· ≤ ·)) {j : Nat}
    {p : InFlight} (hp : ((initial config helloId).run events).1.inFlight[j]? = some p) :
    let m := initial config helloId
    let i := (outcomes (m.run events).2).length + j
    p.retransmits = tries events (m.account 0 0 events) i ∧
      IsGreatest {u | u ∈ departures events (m.account 0 0 events) i} p.sentAt := by
  refine ⟨?_, isGreatest_of_getLast? ?_ (sentAt_run config helloId events j p hp)⟩
  · rw [tries_account]
    exact (tallied_run config helloId events).counter j p hp
  · exact hmono.sublist (departures_sublist (length_account _ _ _ _) _)

theorem spent_iff (hmono : (events.map (·.2)).Pairwise (· ≤ ·)) :
    let m := initial config helloId
    (m.run events).1.isExhausted now = true ↔ Spent m events (m.account 0 0 events) now := by
  have hwithin := within_run config helloId events
  have hconserves := congrArg List.length (run_conserves (initial config helloId) events)
  have hsent : ((initial config helloId).sentIds events).length =
      (outcomes ((initial config helloId).run events).2).length +
        ((initial config helloId).run events).1.inFlight.length := by
    simpa [flying, initial] using hconserves
  have hconfig : ((initial config helloId).run events).1.config = config := config_run _ events
  rw [Within, hconfig] at hwithin
  simp only [isExhausted, resendDeadline, List.any_eq_true, Bool.and_eq_true, decide_eq_true_eq, hconfig]
  constructor
  · rintro ⟨p, hmem, hdue, hmax⟩
    obtain ⟨j, hj, rfl⟩ := List.getElem_of_mem hmem
    obtain ⟨htries, hlast⟩ := kept_run config helloId hmono (List.getElem?_eq_getElem hj)
    refine ⟨_, Nat.le_add_right _ j, by rw [hsent]; omega, ?_, _, hlast, hdue⟩
    rw [← htries]
    exact Nat.le_antisymm (hwithin _ hmem) hmax
  · rintro ⟨i, hdone, hlt, hmax, last, hlast, hdue⟩
    obtain ⟨j, rfl⟩ := Nat.exists_eq_add_of_le hdone
    have hj : j < ((initial config helloId).run events).1.inFlight.length := by omega
    obtain ⟨htries, hlast'⟩ := kept_run config helloId hmono (List.getElem?_eq_getElem hj)
    refine ⟨_, List.getElem_mem hj, ?_, ?_⟩
    · rw [← hlast.unique hlast']
      exact hdue
    · rw [htries, hmax]
      rfl

/-- the reason of a tick is the one for which the session times out -/
theorem trigger?_tick_eq_some_iff (hp : ((initial config helloId).run events).1.phase.isTerminal = false)
    (now : Instant) (hmono : (events.map (·.2)).Pairwise (· ≤ ·)) (reason : EndReason) :
    ((initial config helloId).run events).1.trigger? (.tick, now) = some reason ↔
      TimesOut (initial config helloId) events ((initial config helloId).account 0 0 events) now reason := by
  have hlate : isDue now _ = true ↔ Late _ events now := late_iff hp hmono
  have hsilent : isDue now _ = true ↔ Silent _ events now := silent_iff hp hmono
  have hspent : isExhausted _ now = true ↔ Spent (initial config helloId) events _ now := spent_iff hmono
  rw [trigger?, lapse?]
  dsimp only
  constructor
  · intro h
    split_ifs at h with h₁ h₂ h₃ <;> cases h
    · exact .late (hlate.1 h₁)
    · exact .silent (mt hlate.2 h₁) (hsilent.1 h₂)
    · exact .spent (mt hlate.2 h₁) (mt hsilent.2 h₂) (hspent.1 h₃)
  · rintro (h | ⟨h₁, h⟩ | ⟨h₁, h₂, h⟩)
    · exact if_pos (hlate.2 h)
    · rw [if_neg (mt hlate.1 h₁), if_pos (hsilent.2 h)]
    · rw [if_neg (mt hlate.1 h₁), if_neg (mt hsilent.1 h₂), if_pos (hspent.2 h)]

end

/-- there is a reason to time out if any of the three holds -/
theorem exists_timesOut_iff :
    (∃ reason, TimesOut m events account now reason) ↔
      Late m events now ∨ Silent m events now ∨ Spent m events account now := by
  constructor
  · rintro ⟨-, h | ⟨-, h⟩ | ⟨-, -, h⟩⟩
    · exact .inl h
    · exact .inr (.inl h)
    · exact .inr (.inr h)
  · intro h
    by_cases hl : Late m events now
    · exact ⟨_, .late hl⟩
    · by_cases hs : Silent m events now
      · exact ⟨_, .silent hl hs⟩
      · exact ⟨_, .spent hl hs ((h.resolve_left hl).resolve_left hs)⟩

/-- an event ends a session just when it has a reason to, and gives this reason alone -/
theorem endings_step (hp : m.phase.isTerminal = false) (e : SessionEvent × Instant) :
    endings (m.step e).2 = (m.trigger? e).toList ∧ (m.step e).1.phase.isTerminal = (m.trigger? e).isSome := by
  cases ht : m.trigger? e with
  | none =>
    obtain ⟨hlasting, hquiet⟩ := (turn m e).lasting hp ht
    exact ⟨endings_of_isFinal_false hquiet, hlasting⟩
  | some reason =>
    have hends := (turn m e).ended hp ht
    obtain ⟨sent, hsent, hactions⟩ := hends.actions
    rw [hends.phase, hactions, endings_append, hsent.endings_eq, endings_lastActions]
    exact ⟨rfl, rfl⟩

/-- **Which timeout.** A session that has lasted through a history, whose instants are in order, is ended by a tick just
when it is late, silent or has spent its attempts on a send, and the first of these that holds is the reason. The attempts
are those on the wire: every send put its packet there, those without an outcome are the last of them, and the account says
of each packet of data that went out which send it belongs to. No other account does, as long as no more packets are in
flight than ids differ. -/
theorem times_out_iff (config : SessionConfig) (helloId : UInt16) (events : List (SessionEvent × Instant))
    (now : Instant) (hmono : ((events ++ [(SessionEvent.tick, now)]).map (·.2)).Pairwise (· ≤ ·))
    (hp : ((initial config helloId).run events).1.phase.isTerminal = false) :
    let m := initial config helloId
    let account := m.account 0 0 events
    let s := (m.run events).1.step (.tick, now)
    (s.1.phase.isTerminal = true ↔ Late m events now ∨ Silent m events now ∨ Spent m events account now) ∧
      (∀ reason, endings s.2 = [reason] ↔ TimesOut m events account now reason) ∧
      (s.1.phase.isTerminal = false → endings s.2 = []) ∧
      (m.mail events).map (·.header.packetId) = m.sentIds events ∧
      m.sentIds events = outcomes (m.run events).2 ++ (m.run events).1.flying ∧
      Accounts m [] 0 events account ∧
      ((∀ k ≤ events.length, (m.run (events.take k)).1.inFlight.length ≤ 0x8000) →
        ∀ other, Accounts m [] 0 events other → other = account) := by
  have hmono' : (events.map (·.2)).Pairwise (· ≤ ·) := by
    rw [List.map_append] at hmono
    exact (List.pairwise_append.1 hmono).1
  have htrigger := trigger?_tick_eq_some_iff hp now hmono'
  obtain ⟨hends, hterminal⟩ := endings_step hp (.tick, now)
  obtain ⟨hids, -⟩ := mail_spec (m := initial config helloId) ⟨1, rfl, rfl⟩ events
  refine ⟨?_, fun reason => ?_, fun hlasting => ?_, hids, run_conserves (initial config helloId) events,
    accounts_run config helloId events, fun hroom _ => accounts_unique hroom⟩
  · rw [← exists_timesOut_iff, hterminal, Option.isSome_iff_exists]
    exact exists_congr htrigger
  · rw [← htrigger, hends]
    cases ((initial config helloId).run events).1.trigger? (.tick, now) <;> simp
  · have hnone : (((initial config helloId).run events).1.trigger? (.tick, now)).isSome = false :=
      hterminal.symm.trans hlasting
    rw [hends, Option.isNone_iff_eq_none.1 (Option.isSome_eq_false_iff.1 hnone)]
    rfl

/-- a device falls silent with a packet of the session unacknowledged -/
def unanswered : List (SessionEvent × Instant) := [
  (.connect, 0), (.datagram (wire (.hello 5 .accepted)), 1), (.datagram (wire (.data 9 1 [])), 2), (.initComplete, 3),
  (.send [], 4), (.tick, 200000004)]

/-- with one attempt more than the first, the packet is given up at the second tick -/
theorem times_out_iff_unanswered :
    let m := initial { (default : SessionConfig) with maxRetransmits := 1 } 5
    let account := m.account 0 0 unanswered
    account = [[], [], [], [], [0], [0]] ∧ departures unanswered account 0 = [4, 200000004] ∧
      TimesOut m unanswered account 400000004 .retransmitExhausted ∧ ¬Late m unanswered 400000003 ∧
      ¬Silent m unanswered 400000003 ∧ ¬Spent m unanswered account 400000003 := by
  obtain ⟨-, hreason, -⟩ := times_out_iff { (default : SessionConfig) with maxRetransmits := 1 } 5 unanswered
    400000004 (by decide) (by decide)
  obtain ⟨hends, -⟩ := times_out_iff { (default : SessionConfig) with maxRetransmits := 1 } 5 unanswered
    400000003 (by decide) (by decide)
  have hnone := mt hends.2 (by decide)
  exact ⟨by decide, by decide, (hreason _).1 (by decide), fun h => hnone (.inl h), fun h => hnone (.inr (.inl h)),
    fun h => hnone (.inr (.inr h))⟩

end VisionMixer.Session
