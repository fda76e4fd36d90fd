/-
The life of a session: its phases follow one another, and it ends once.

`entered` are the phases through which a history takes a session, read off its states, and `endedBy?` is the reason of
the first event that would end it. Each event reports the phases it leads through (`Turn.phases_eq`) and ends the session
just when it would (`Turn.endings_eq`). `one_orderly_end`: over any history the reported phases are those entered, each
later than the one before; there is one end at most, for the first reason that occurs; before it nothing is said of an
end, and with it everything at once (`EndsAt`).
-/
import VisionMixer.Proofs.Session.Delivery
import VisionMixer.Proofs.Session.Silence

namespace VisionMixer

namespace Phase

/-- the phases entered from one to another; the end leads through `disconnecting` -/
def passed (p q : Phase) : List Phase :=
  if q = p then [] else if q = .disconnected then [.disconnecting, .disconnected] else [q]

/-- one phase comes after another, or the same again -/
def Follows (p q : Phase) : Prop := q = p ∨ p.isTerminal = false ∧ p.rank < q.rank ∧ q ≠ .disconnecting

theorem isChain_passed_append {p q : Phase} {later : List Phase} (h : Follows p q)
    (hq : (q :: later).IsChain (·.rank < ·.rank)) : (p :: (passed p q ++ later)).IsChain (·.rank < ·.rank) := by
  rcases h with rfl | ⟨hp, hlt, hne⟩
  · rw [passed, if_pos rfl]
    exact hq
  · have hqp : q ≠ p := by
      rintro rfl
      exact absurd hlt (Nat.lt_irrefl _)
    rw [passed, if_neg hqp]
    split_ifs with hend
    · subst hend
      have hfirst : p.rank < Phase.disconnecting.rank := by cases p <;> first | decide | cases hp
      exact List.isChain_cons_cons.2 ⟨hfirst, List.isChain_cons_cons.2 ⟨by decide, hq⟩⟩
    · exact List.isChain_cons_cons.2 ⟨hlt, hq⟩

end Phase

namespace Session

/-- the phases through which a history takes a session -/
def entered (m : Session) : List (SessionEvent × Instant) → List Phase
  | [] => []
  | e :: events => m.phase.passed (m.step e).1.phase ++ (m.step e).1.entered events

/-- the reason of the first event of a history that would end a session -/
def endedBy? (m : Session) : List (SessionEvent × Instant) → Option EndReason
  | [] => none
  | e :: events => (m.trigger? e).or ((m.step e).1.endedBy? events)

/-! ### One event -/

variable {m : Session} {e : SessionEvent × Instant} {id : Option PacketId} {s : Step}

theorem phases_lastActions (m : Session) (reason : EndReason) :
    phases (m.lastActions reason) = [.disconnecting, .disconnected] := by
  have hfailed : phases (m.inFlight.map (.sendFailed ·.id)) = [] :=
    List.filterMap_eq_nil_iff.2 (by simp [SessionAction.phase?])
  rw [lastActions, phases_append]
  exact congrArg (.disconnecting :: · ++ [.disconnected]) hfailed

theorem endings_lastActions (m : Session) (reason : EndReason) : endings (m.lastActions reason) = [reason] := by
  have hfailed : endings (m.inFlight.map (.sendFailed ·.id)) = [] :=
    List.filterMap_eq_nil_iff.2 (by simp [SessionAction.ending?])
  rw [lastActions, endings_append]
  exact congrArg (· ++ [reason]) hfailed

theorem ne_disconnected_of_lasting {p : Phase} (h : p.isTerminal = false) : p ≠ .disconnected := by
  rintro rfl
  cases h

/-- an event reports the phases it leads through -/
theorem Turn.phases_eq (h : Turn m e id s) : phases s.2 = m.phase.passed s.1.phase := by
  have hsame : ∀ p : Phase, p.passed p = [] := fun p => if_pos rfl
  cases h with
  | starts _ _ => exact (onlySends_sending (.hello m.helloId .request)).phases_eq.trans (hsame _).symm
  | goes h _ _ => rw [phases_of_isRoutine h.routine, h.phase, hsame]
  | advances h _ _ =>
    obtain ⟨sent, hsent, hactions⟩ := h.actions
    have hne : s.1.phase ≠ m.phase := fun he => by
      have hlt := h.later
      rw [he] at hlt
      exact absurd hlt (Nat.lt_irrefl _)
    rw [hactions, phases_append, hsent.phases_eq, Phase.passed, if_neg hne,
      if_neg (ne_disconnected_of_lasting h.lasting)]
    rfl
  | sends _ _ _ => exact (hsame m.phase).symm
  | ends hp _ h =>
    obtain ⟨sent, hsent, hactions⟩ := h.actions
    rw [hactions, phases_append, hsent.phases_eq, phases_lastActions, h.phase, Phase.passed,
      if_neg (ne_disconnected_of_lasting hp).symm]
    rfl

/-- phases follow one another -/
theorem Turn.follows (h : Turn m e id s) : m.phase.Follows s.1.phase := by
  cases h with
  | starts _ _ => exact .inl rfl
  | goes h _ _ => exact .inl h.phase
  | advances h hp _ =>
    refine .inr ⟨hp, h.later, fun he => ?_⟩
    have hlasting := h.lasting
    rw [he] at hlasting
    cases hlasting
  | sends _ _ _ => exact .inl rfl
  | ends hp _ h =>
    refine .inr ⟨hp, ?_, by rw [h.phase]; decide⟩
    rw [h.phase]
    generalize m.phase = p at hp
    cases p <;> first | decide | cases hp

/-- an event that would not end a session says nothing of an end -/
theorem Turn.lasting (h : Turn m e id s) (hp : m.phase.isTerminal = false) (ht : m.trigger? e = none) :
    s.1.phase.isTerminal = false ∧ ∀ a ∈ s.2, a.isFinal = false := by
  cases h with
  | starts _ _ => exact ⟨hp, (onlySends_sending (.hello m.helloId .request)).not_final⟩
  | goes h _ _ =>
    rw [h.phase]
    exact ⟨hp, fun a ha => SessionAction.isFinal_of_isRoutine (h.routine a ha)⟩
  | advances h _ _ =>
    obtain ⟨sent, hsent, hactions⟩ := h.actions
    refine ⟨h.lasting, fun a ha => ?_⟩
    rw [hactions] at ha
    rcases List.mem_append.1 ha with ha | ha
    · exact hsent.not_final a ha
    · rw [List.mem_singleton.1 ha]
      exact h.lasting
  | sends _ _ _ =>
    refine ⟨hp, fun a ha => ?_⟩
    rw [List.mem_singleton.1 ha]
    rfl
  | ends _ hsome _ =>
    rw [ht] at hsome
    cases hsome

/-- an event that would end a session does -/
theorem Turn.ended (h : Turn m e id s) (hp : m.phase.isTerminal = false) {reason : EndReason}
    (ht : m.trigger? e = some reason) : Ends m reason s := by
  have hnot (hnone : m.trigger? e = none) : False := by
    rw [ht] at hnone
    cases hnone
  cases h with
  | starts he _ =>
    rw [trigger?, he] at ht
    cases ht
  | goes _ _ hnone => exact (hnot (hnone hp)).elim
  | advances _ _ hnone => exact (hnot hnone).elim
  | sends _ _ hnone => exact (hnot hnone).elim
  | ends _ hsome h =>
    rw [ht] at hsome
    cases hsome
    exact h

/-! ### A history -/

theorem phases_run (m : Session) (events : List (SessionEvent × Instant)) :
    phases (m.run events).2 = m.entered events := by
  induction events generalizing m with
  | nil => rfl
  | cons e events ih => rw [run_cons, Step.next, phases_append, (turn m e).phases_eq, ih, entered]

theorem isChain_entered (m : Session) (events : List (SessionEvent × Instant)) :
    (m.phase :: m.entered events).IsChain (·.rank < ·.rank) := by
  induction events generalizing m with
  | nil => exact List.isChain_singleton _
  | cons e events ih => exact Phase.isChain_passed_append (turn m e).follows (ih (m.step e).1)

/-- a history without a reason to end -/
theorem lasting_run {m : Session} (hp : m.phase.isTerminal = false) {events : List (SessionEvent × Instant)}
    (h : m.endedBy? events = none) :
    (m.run events).1.phase.isTerminal = false ∧ ∀ a ∈ (m.run events).2, a.isFinal = false := by
  induction events generalizing m with
  | nil => exact ⟨hp, by simp [run_nil, still]⟩
  | cons e events ih =>
    obtain ⟨ht, hrest⟩ := Option.or_eq_none_iff.1 h
    obtain ⟨hlasting, hquiet⟩ := (turn m e).lasting hp ht
    obtain ⟨hp', hquiet'⟩ := ih hlasting hrest
    rw [run_cons]
    refine ⟨hp', fun a ha => ?_⟩
    rcases List.mem_append.1 ha with ha | ha
    · exact hquiet a ha
    · exact hquiet' a ha

/-- a history with a reason to end has a first event with one -/
theorem exists_first_trigger {m : Session} {events : List (SessionEvent × Instant)} {reason : EndReason}
    (h : m.endedBy? events = some reason) :
    ∃ before e after, events = before ++ e :: after ∧ m.endedBy? before = none ∧
      (m.run before).1.trigger? e = some reason := by
  induction events generalizing m with
  | nil => cases h
  | cons e events ih =>
    rcases Option.or_eq_some_iff.1 h with ht | ⟨hnone, hrest⟩
    · exact ⟨[], e, events, rfl, rfl, ht⟩
    · obtain ⟨before, e', after, rfl, hfirst, ht⟩ := ih hrest
      refine ⟨e :: before, e', after, rfl, Option.or_eq_none_iff.2 ⟨hnone, hfirst⟩, ?_⟩
      rw [run_cons]
      exact ht

theorem onlySends_run_of_ended {m : Session} (hp : m.phase.isTerminal = true)
    (events : List (SessionEvent × Instant)) : OnlySends (m.run events).2 := by
  cases hs : m.startedAt with
  | some _ =>
    rw [run_of_ended_started hp (by rw [hs]; rfl)]
    exact .nil
  | none =>
    have hrun := run_of_ended_unstarted hp hs events
    split_ifs at hrun
    · obtain ⟨now, hrun⟩ := hrun
      rw [hrun]
      exact onlySends_sending (.hello m.helloId .request)
    · rw [hrun]
      exact .nil

/-- a session that lasts through `before` ends at `e`: in answer to this one event it reports the end, fails what is in
flight and gives the reason; all it does afterwards is to write to the wire -/
structure EndsAt (m : Session) (before : List (SessionEvent × Instant)) (e : SessionEvent × Instant)
    (after : List (SessionEvent × Instant)) (reason : EndReason) : Prop where
  first : m.endedBy? before = none
  trigger : (m.run before).1.trigger? e = some reason
  lasting : (m.run before).1.phase.isTerminal = false
  quiet : ∀ a ∈ (m.run before).2, a.isFinal = false
  ended : ((m.run before).1.step e).1.phase = .disconnected
  actions : ∃ sent later, OnlySends sent ∧ OnlySends later ∧
    ((m.run before).1.step e).2 = sent ++ (m.run before).1.lastActions reason ∧
    (m.run (before ++ e :: after)).2 = (m.run before).2 ++ ((m.run before).1.step e).2 ++ later

theorem exists_endsAt {m : Session} (hp : m.phase.isTerminal = false) {events : List (SessionEvent × Instant)}
    {reason : EndReason} (h : m.endedBy? events = some reason) :
    ∃ before e after, events = before ++ e :: after ∧ EndsAt m before e after reason := by
  obtain ⟨before, e, after, rfl, hfirst, ht⟩ := exists_first_trigger h
  obtain ⟨hlasting, hquiet⟩ := lasting_run hp hfirst
  have hends := (turn (m.run before).1 e).ended hlasting ht
  obtain ⟨sent, hsent, hactions⟩ := hends.actions
  have hterminal : ((m.run before).1.step e).1.phase.isTerminal = true := by
    rw [hends.phase]
    rfl
  refine ⟨before, e, after, rfl, hfirst, ht, hlasting, hquiet, hends.phase, sent, _, hsent,
    onlySends_run_of_ended hterminal after, hactions, ?_⟩
  rw [run_append, Step.next, run_cons, Step.next, List.append_assoc]

theorem endings_run {m : Session} (hp : m.phase.isTerminal = false) (events : List (SessionEvent × Instant)) :
    endings (m.run events).2 = (m.endedBy? events).toList := by
  cases h : m.endedBy? events with
  | none => exact endings_of_isFinal_false (lasting_run hp h).2
  | some reason =>
    obtain ⟨before, e, after, rfl, hend⟩ := exists_endsAt hp h
    obtain ⟨sent, later, hsent, hlater, hstep, hactions⟩ := hend.actions
    rw [hactions, hstep, endings_append, endings_append, endings_append, endings_of_isFinal_false hend.quiet,
      hsent.endings_eq, hlater.endings_eq, endings_lastActions]
    rfl

/-- **One orderly end.** Over any history of a session the phases reported are those it entered, each later than the one
before. It tells one end at most, for the reason of the first event that would end it. Without such an event it lasts and
says nothing of an end; with one it ends there and then, and says of its end all that there is to say. -/
theorem one_orderly_end (config : SessionConfig) (helloId : UInt16) (events : List (SessionEvent × Instant)) :
    let m := initial config helloId
    let s := m.run events
    phases s.2 = m.entered events ∧ (Phase.connecting :: phases s.2).IsChain (·.rank < ·.rank) ∧
      endings s.2 = (m.endedBy? events).toList ∧
      (m.endedBy? events = none → s.1.phase.isTerminal = false ∧ ∀ a ∈ s.2, a.isFinal = false) ∧
      ∀ reason, m.endedBy? events = some reason →
        ∃ before e after, events = before ++ e :: after ∧ EndsAt m before e after reason := by
  have hp : (initial config helloId).phase.isTerminal = false := rfl
  have hphases := phases_run (initial config helloId) events
  refine ⟨hphases, ?_, endings_run hp events, lasting_run hp, fun reason => exists_endsAt hp⟩
  rw [hphases]
  exact isChain_entered (initial config helloId) events

/-- a live session is closed with a packet in flight; its socket fails and the device hangs up when it is over -/
def quarrel : List (SessionEvent × Instant) := [
  (.connect, 0), (.datagram (wire (.hello 5 .accepted)), 1), (.datagram (wire (.data 9 1 [])), 2), (.initComplete, 3),
  (.send [], 4), (.close, 5), (.socketFailed "gone", 6), (.datagram (wire (.hello 9 .disconnect)), 7), (.close, 8)]

theorem one_orderly_end_quarrel :
    let s := (initial default 5).run quarrel
    phases s.2 = [.handshaking, .live, .disconnecting, .disconnected] ∧ endings s.2 = [.closed] ∧
      ∃ before e after, quarrel = before ++ e :: after ∧ EndsAt (initial default 5) before e after .closed := by
  obtain ⟨hphases, -, hends, -, hend⟩ := one_orderly_end default 5 quarrel
  exact ⟨hphases.trans (by decide), hends.trans (by decide), hend .closed (by decide)⟩

end Session

end VisionMixer
